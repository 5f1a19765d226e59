import AppPrepanet.ViewControllerWorkshop.Button
import Mathlib.Data.List.Nodup

namespace AppPrepanet.ViewControllerWorkshop

-- The requirement by requirement test, on titles.
def TitlesApproved (workshop : Workshop) (inscripciones : List Inscripcion) : Prop :=
  ∀ title ∈ workshop.req, ∃ inscripcion ∈ inscripciones,
    inscripcion.wkTitle = title ∧ inscripcion.status = "Aprobado"

instance (workshop : Workshop) (inscripciones : List Inscripcion) :
    Decidable (TitlesApproved workshop inscripciones) := by unfold TitlesApproved; infer_instance

-- The catalogue as it is documented: the identifiers are 1, 2, 3, ... in the order of the
-- workshops, and no title comes twice.
structure Numbered (catalogue : List Workshop) : Prop where
  wkID : ∀ (k : ℕ) (hk : k < catalogue.length), catalogue[k].wkID = toString (k + 1)
  titles : (catalogue.map (·.title)).Nodup

def ApprovedIn (inscripciones : List Inscripcion) (workshop : Workshop) : Prop :=
  ∃ inscripcion ∈ inscripciones, inscripcion.wkID = workshop.wkID ∧
    inscripcion.status = "Aprobado"

-- What the student has approved are workshops of the catalogue, and with each of them all the
-- ones before it.
structure ApprovedInOrder (catalogue : List Workshop) (inscripciones : List Inscripcion) :
    Prop where
  known : ∀ inscripcion ∈ inscripciones, inscripcion.status = "Aprobado" →
    ∃ workshop ∈ catalogue, workshop.wkID = inscripcion.wkID ∧
      workshop.title = inscripcion.wkTitle
  closed : ∀ (k : ℕ) (hk : k < catalogue.length), ApprovedIn inscripciones catalogue[k] →
    ∀ (j : ℕ) (hj : j < k), ApprovedIn inscripciones catalogue[j]

section Catalogue

variable {catalogue : List Workshop} {inscripciones : List Inscripcion} {workshop : Workshop}

theorem Numbered.eq_of_wkID (h : Numbered catalogue) {i j : ℕ} (hi : i < catalogue.length)
    (hj : j < catalogue.length) (heq : catalogue[i].wkID = catalogue[j].wkID) : i = j := by
  rw [h.wkID i hi, h.wkID j hj] at heq
  have hsucc := Swift.toString_injective heq
  omega

theorem Numbered.eq_of_title (h : Numbered catalogue) {i j : ℕ} (hi : i < catalogue.length)
    (hj : j < catalogue.length) (heq : catalogue[i].title = catalogue[j].title) : i = j := by
  have hi' : i < (catalogue.map (·.title)).length := by simpa using hi
  have hj' : j < (catalogue.map (·.title)).length := by simpa using hj
  have htitles : (catalogue.map (·.title))[i] = (catalogue.map (·.title))[j] := by
    simpa using heq
  exact h.titles.getElem_inj_iff.mp htitles

-- Where the inscripciones are approved in order, an approved one stands for a position.
theorem ApprovedInOrder.position (h : ApprovedInOrder catalogue inscripciones)
    {inscripcion : Inscripcion} (hi : inscripcion ∈ inscripciones)
    (hstatus : inscripcion.status = "Aprobado") :
    ∃ (k : ℕ) (hk : k < catalogue.length), catalogue[k].wkID = inscripcion.wkID ∧
      catalogue[k].title = inscripcion.wkTitle := by
  obtain ⟨found, hfound, hid, htitle⟩ := h.known inscripcion hi hstatus
  obtain ⟨k, hk, rfl⟩ := List.getElem_of_mem hfound
  exact ⟨k, hk, hid, htitle⟩

-- A workshop is approved under its identifier exactly when it is under its title.
theorem ApprovedInOrder.approvedIn_iff (h : ApprovedInOrder catalogue inscripciones)
    (hcatalogue : Numbered catalogue) {k : ℕ} (hk : k < catalogue.length) :
    ApprovedIn inscripciones catalogue[k] ↔ ∃ inscripcion ∈ inscripciones,
      inscripcion.wkTitle = catalogue[k].title ∧ inscripcion.status = "Aprobado" := by
  constructor
  · rintro ⟨inscripcion, hi, hid, hstatus⟩
    obtain ⟨position, hp, hwkID, htitle⟩ := h.position hi hstatus
    have hsame := hcatalogue.eq_of_wkID hp hk (hwkID.trans hid)
    subst hsame
    exact ⟨inscripcion, hi, htitle.symm, hstatus⟩
  · rintro ⟨inscripcion, hi, htitle, hstatus⟩
    obtain ⟨position, hp, hwkID, htitle'⟩ := h.position hi hstatus
    have hsame := hcatalogue.eq_of_title hp hk (htitle'.trans htitle)
    subst hsame
    exact ⟨inscripcion, hi, hwkID.symm, hstatus⟩

-- The count test asks for the last of the required workshops.
theorem countApproved_iff_last (h : ApprovedInOrder catalogue inscripciones)
    (hcatalogue : Numbered catalogue) {n : ℕ} (hn : n < catalogue.length)
    (hreq : workshop.req.length = n + 1) (hcount : n + 1 ≤ 0x7FFFFFFFFFFFFFFF) :
    CountApproved workshop inscripciones ↔ ApprovedIn inscripciones catalogue[n] := by
  have hne : workshop.req ≠ [] := List.ne_nil_of_length_eq_add_one hreq
  constructor
  · intro happroved
    obtain ⟨inscripcion, hi, hint, hstatus⟩ := happroved.resolve_left hne
    obtain ⟨position, hp, hwkID, _⟩ := h.position hi hstatus
    rw [← hwkID, hcatalogue.wkID position hp] at hint
    have hvalue := Swift.int_toString_eq hint.symm
    have hsame : position = n := by omega
    subst hsame
    exact ⟨inscripcion, hi, hwkID.symm, hstatus⟩
  · rintro ⟨inscripcion, hi, hid, hstatus⟩
    refine .inr ⟨inscripcion, hi, ?_, hstatus⟩
    rw [hid, hcatalogue.wkID n hn, Swift.int_toString, Swift.inRange, if_pos (by omega), hreq]

-- In a documented catalogue it comes to the same as the test on titles.
theorem countApproved_iff_titlesApproved (h : ApprovedInOrder catalogue inscripciones)
    (hcatalogue : Numbered catalogue)
    (hreq : workshop.req.Perm ((catalogue.take workshop.req.length).map (·.title)))
    (hcount : workshop.req.length ≤ 0x7FFFFFFFFFFFFFFF) :
    CountApproved workshop inscripciones ↔ TitlesApproved workshop inscripciones := by
  cases hlength : workshop.req.length with
  | zero =>
      have hempty := List.length_eq_zero_iff.mp hlength
      exact iff_of_true (.inl hempty) (by simp [TitlesApproved, hempty])
  | succ n =>
      rw [hlength] at hreq hcount
      have hn : n < catalogue.length := by
        have hle := hreq.length_eq
        rw [hlength, List.length_map, List.length_take] at hle
        omega
      rw [countApproved_iff_last h hcatalogue hn hlength hcount]
      constructor
      · intro hlast title htitle
        obtain ⟨required, hmem, rfl⟩ := List.mem_map.mp (hreq.mem_iff.mp htitle)
        obtain ⟨j, hj, hget⟩ := List.mem_take_iff_getElem.mp hmem
        have hle : j ≤ n := by omega
        have hjth : ApprovedIn inscripciones catalogue[j] := by
          rcases hle.lt_or_eq with hlt | heq
          · exact h.closed n hn hlast j hlt
          · subst heq
            exact hlast
        rw [← hget]
        exact (h.approvedIn_iff hcatalogue _).mp hjth
      · intro htitles
        refine (h.approvedIn_iff hcatalogue hn).mpr (htitles _ (hreq.mem_iff.mpr ?_))
        exact List.mem_map_of_mem (List.mem_take_iff_getElem.mpr ⟨n, by omega, rfl⟩)

end Catalogue

-- After the answer the button is enabled exactly when all the requirements that the screen
-- lists are approved and the workshop is not taken yet, as long as the workshops are numbered
-- as documented, this one requires the first ones, and none was approved before its turn.
theorem isEnabled_iff_titlesApproved (catalogue : List Workshop) (screen : ViewControllerWorkshop)
    (hcatalogue : Numbered catalogue)
    (happroved : ApprovedInOrder catalogue screen.inscripciones)
    (hreq : screen.workshop.req.Perm
      ((catalogue.take screen.workshop.req.length).map (·.title)))
    (hcount : screen.workshop.req.length ≤ 0x7FFFFFFFFFFFFFFF) :
    screen.fetchCompletion.btInscripcion.isEnabled = true ↔
      TitlesApproved screen.workshop screen.inscripciones ∧
        ¬Enrolled screen.workshop screen.inscripciones := by
  rw [fetchCompletion_isEnabled_iff,
    countApproved_iff_titlesApproved happroved hcatalogue hreq hcount]

private def ana : User :=
  { nombre := "Ana", email := "", matricula := "A01", campus := "MTY", rol := "Alumno" }

private def aprobado (wkID wkTitle : String) : Inscripcion :=
  { wkTitle := wkTitle, wkID := wkID, campusID := "MTY", matriculaAlum := "A01",
    status := "Aprobado", date := 0 }

private def tresTalleres : List Workshop :=
  [{ wkID := "1", title := "Mis Emociones", descr := "", req := [], startDate := 0, endDate := 5 },
   { wkID := "2", title := "Liderazgo", descr := "", req := ["Mis Emociones"], startDate := 6,
     endDate := 9 },
   { wkID := "3", title := "Comunicacion", descr := "", req := ["Liderazgo", "Mis Emociones"],
     startDate := 10, endDate := 12 }]

private theorem tresTalleres_numbered : Numbered tresTalleres := ⟨by decide, by decide⟩

private theorem approvedInOrder_dos : ApprovedInOrder tresTalleres
    [aprobado "2" "Liderazgo", aprobado "1" "Mis Emociones"] := by
  refine ⟨by decide, ?_⟩
  unfold ApprovedIn
  decide

-- The third workshop, with the two before it approved.
theorem isEnabled_iff_titlesApproved_comunicacion :
    { storyboard tresTalleres[2] ana with inscripciones :=
        [aprobado "2" "Liderazgo", aprobado "1" "Mis Emociones"]
      }.fetchCompletion.btInscripcion.isEnabled = true :=
  (isEnabled_iff_titlesApproved tresTalleres
    { storyboard tresTalleres[2] ana with inscripciones :=
        [aprobado "2" "Liderazgo", aprobado "1" "Mis Emociones"] }
    tresTalleres_numbered approvedInOrder_dos (by decide) (by decide)).mpr (by decide)

-- In other catalogues the two tests differ: here the only requirement is approved, but the
-- approved workshop has identifier 3 and the number of requirements is 1.
theorem isEnabled_ne_titlesApproved :
    ¬∀ (workshop : Workshop) (user : User) (inscripciones : List Inscripcion),
      ({ storyboard workshop user with
          inscripciones := inscripciones }.fetchCompletion.btInscripcion.isEnabled = true ↔
        TitlesApproved workshop inscripciones ∧ ¬Enrolled workshop inscripciones) := by
  intro h
  let workshop : Workshop :=
    { wkID := "9", title := "Liderazgo", descr := "", req := ["Mis Emociones"],
      startDate := 0, endDate := 0 }
  exact absurd (h workshop ana [aprobado "3" "Mis Emociones"]) (by decide)

end AppPrepanet.ViewControllerWorkshop
