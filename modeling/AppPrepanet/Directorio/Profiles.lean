import AppPrepanet.Directorio.Screens

namespace AppPrepanet.Directorio

open Firestore

-- The profile was opened from the row of a student in the list of a campus, and that list from
-- the row of the campus.
def ChosenFrom (state : State) (user : User) (index : ℕ) : Prop :=
  ∃ list campus documents usuario,
    state.alumnos[index]? = some list ∧ state.campuses[list.opener]? = some campus ∧
      list.view.campus ∈ campus.view.campusArr ∧
      list.answer = some (.ok documents) ∧ usuario ∈ documents ∧ user = userOf usuario ∧
      usuario.fieldIs "campus" list.view.campus = true ∧ usuario.fieldIs "rol" "Alumno" = true

-- The texts are those of a coordinator of this campus, or there are none.
def ContactOf (campus : String) (view : VistaPerfil) : Prop :=
  (view.nomCoord.text = "" ∧ view.correoCoord.text = "") ∨
    ∃ coordinador : Document, coordinador.fieldIs "campus" campus = true ∧
      coordinador.fieldIs "rol" "Coord" = true ∧
      view.nomCoord.text = coordinador.stringOrEmpty "nombre" ∧
      view.correoCoord.text = coordinador.stringOrEmpty "email"

section Perfil

variable {alumnos : List AlumnosScreen} {perfil : PerfilScreen}

theorem PerfilScreen.Shows.campus (h : perfil.Shows alumnos) :
    perfil.view.campus = perfil.view.user.campus := by
  rw [h.view]
  simp

theorem inscripcionOf_matricula {document : Document} {inscripcion : Inscripcion}
    (h : ViewControllerPerfil.inscripcionOf document = some inscripcion) :
    document.string "matricula" = some inscripcion.matriculaAlum := by
  simp only [ViewControllerPerfil.inscripcionOf, Option.bind_eq_bind, Option.bind_eq_some_iff,
    Option.pure_def, Option.some.injEq] at h
  obtain ⟨_, _, _, _, _, _, matricula, hmatricula, _, _, _, _, rfl⟩ := h
  exact hmatricula

-- The query asked for one matricula only.
theorem PerfilScreen.Shows.matricula (h : perfil.Shows alumnos) {inscripcion : Inscripcion}
    (hi : inscripcion ∈ perfil.view.inscripciones) :
    inscripcion.matriculaAlum = perfil.view.user.matricula := by
  have hread : inscripcion ∈ VistaPerfil.read perfil.answers.enrollment := by
    rw [h.view] at hi
    exact hi
  match hanswer : perfil.answers.enrollment with
  | none => simp [hanswer, VistaPerfil.read] at hread
  | some (.error err) => simp [hanswer, VistaPerfil.read] at hread
  | some (.ok documents) =>
      rw [hanswer] at hread
      cases hm : documents.mapM ViewControllerPerfil.inscripcionOf with
      | none => simp [VistaPerfil.read, hm] at hread
      | some inscripciones =>
          simp only [VistaPerfil.read, hm, Option.getD_some] at hread
          obtain ⟨document, hd, hof⟩ := Loop.mapM_eq_some_mem hm hread
          have hfield : document.fieldIs "matricula" perfil.view.user.matricula = true := by
            apply (h.enrollment _ hanswer).fieldIs hd
            simp [enrollmentQuery]
          have hstored := document.fieldIs_iff.mp hfield
          rw [inscripcionOf_matricula hof] at hstored
          exact Option.some.inj hstored

theorem PerfilScreen.Shows.contact (h : perfil.Shows alumnos) :
    ContactOf perfil.view.user.campus perfil.view := by
  have hnom : perfil.view.nomCoord.text = VistaPerfil.coordField "nombre" perfil.answers.coord :=
    congrArg (fun view : VistaPerfil => view.nomCoord.text) h.view
  have hcorreo : perfil.view.correoCoord.text =
      VistaPerfil.coordField "email" perfil.answers.coord :=
    congrArg (fun view : VistaPerfil => view.correoCoord.text) h.view
  rcases VistaPerfil.coordField_cases perfil.answers.coord with hnone | ⟨document, hanswer, htext⟩
  · exact .inl ⟨by rw [hnom, hnone], by rw [hcorreo, hnone]⟩
  · have hquery := h.coord _ hanswer
    rw [coordQuery, h.campus] at hquery
    refine .inr ⟨document, ?_, ?_, by rw [hnom, htext], by rw [hcorreo, htext]⟩
    · exact hquery.fieldIs (List.mem_singleton_self _) (by simp)
    · exact hquery.fieldIs (List.mem_singleton_self _) (by simp)

end Perfil

theorem Shows.chosenFrom {state : State} (h : Shows state) {perfil : PerfilScreen}
    (hp : perfil ∈ state.perfiles) {index : ℕ} (hopener : perfil.opener = some index) :
    ChosenFrom state perfil.view.user index := by
  obtain ⟨list, hlist, hmem⟩ := (h.perfiles perfil hp).opener index hopener
  have hshows := h.alumnos list (List.mem_of_getElem? hlist)
  obtain ⟨campus, hcampus, hname⟩ := hshows.opener
  obtain ⟨documents, usuario, hanswer, hu, huser, hfields⟩ := hshows.exists_document hmem
  exact ⟨list, campus, documents, usuario, hlist, hcampus, hname, hanswer, hu, huser, hfields⟩

-- Every profile is the one of a single user, whichever way it was opened and in whatever order
-- its two queries are answered, screens closed or not: it is told by the user and the two
-- answers, its enrolments are the user's, the coordinator is one of the user's campus. A
-- profile opened from a list is one of a student of the campus that was picked.
theorem profile_of_one_user (events : List Event) (final : State)
    (hrun : Transition.run step start events = some final) (perfil : PerfilScreen)
    (hp : perfil ∈ final.perfiles) :
    perfil.view = VistaPerfil.shows perfil.view.user perfil.answers ∧
      (∀ inscripcion ∈ perfil.view.inscripciones,
        inscripcion.matriculaAlum = perfil.view.user.matricula) ∧
      ContactOf perfil.view.user.campus perfil.view ∧
      ∀ index, perfil.opener = some index → ChosenFrom final perfil.view.user index := by
  have hshows := shows_run hrun
  have hperfil := hshows.perfiles perfil hp
  refine ⟨hperfil.view, fun inscripcion hi => hperfil.matricula hi, hperfil.contact, ?_⟩
  intro index hopener
  exact hshows.chosenFrom hp hopener

private def toluca : Document := ⟨"c1", [("campus", .string "Toluca")]⟩

private def alumna : Document :=
  ⟨"A24", [("nombre", .string "Vera"), ("campus", .string "Toluca"), ("rol", .string "Alumno")]⟩

private def coordinadora : Document :=
  ⟨"L01", [("nombre", .string "Wanda"), ("campus", .string "Toluca"), ("rol", .string "Coord")]⟩

private def inscrita : Document :=
  ⟨"d1", [("tallerTitle", .string "Mis Emociones"), ("tallerID", .string "1"),
    ("campusID", .string "Toluca"), ("matricula", .string "A24"), ("status", .string "Inscrito"),
    ("Date", .timestamp ⟨3⟩)]⟩

-- The same student from the list and then from the home screen, the answers in opposite orders
-- and the first profile closed before it has any.
private def dosPerfiles : List Event :=
  [.campus (userOf coordinadora), .campusAnswer 0 (.ok [toluca]), .selectCampus 0,
    .alumnosAnswer 0 (.ok [alumna]), .selectAlumno 0, .dismiss, .dismiss, .dismiss,
    .perfilAlum (userOf alumna), .enrollmentAnswer 1 (.ok [inscrita]),
    .coordAnswer 1 (.ok [coordinadora]), .coordAnswer 0 (.ok [coordinadora]),
    .enrollmentAnswer 0 (.ok [inscrita])]

theorem profile_of_one_user_dosPerfiles :
    ∃ final perfil, Transition.run step start dosPerfiles = some final ∧
      final.perfiles[0]? = some perfil ∧ perfil.opener = some 0 ∧
      final.perfiles.map (·.view) = [perfil.view, perfil.view] ∧
      perfil.view = VistaPerfil.shows perfil.view.user perfil.answers ∧
      (∀ inscripcion ∈ perfil.view.inscripciones,
        inscripcion.matriculaAlum = perfil.view.user.matricula) ∧
      ContactOf perfil.view.user.campus perfil.view ∧
      ∀ index, perfil.opener = some index → ChosenFrom final perfil.view.user index :=
  ⟨_, _, rfl, rfl, rfl, rfl,
    profile_of_one_user dosPerfiles _ rfl _ (List.mem_of_getElem? (i := 0) rfl)⟩

end AppPrepanet.Directorio
