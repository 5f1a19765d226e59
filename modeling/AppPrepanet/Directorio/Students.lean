import AppPrepanet.Directorio.Screens
import Mathlib.Data.List.Perm.Basic
import Mathlib.Data.Option.Basic

namespace AppPrepanet.Directorio

open Firestore

-- The condition of the query of `getAlumnos`.
def isAlumnoDe (campus : String) (document : Document) : Bool :=
  document.fieldIs "campus" campus && document.fieldIs "rol" "Alumno"

-- A list of students has been read from this state of the collection Usuarios, if at all.
def ReadFrom (usuarios : List Document) (campus : String) : Option QueryResult → Prop
  | some (.ok documents) => documents.Perm (usuarios.filter (isAlumnoDe campus))
  | some (.error _) | none => True

instance (usuarios : List Document) (campus : String) : DecidablePred (ReadFrom usuarios campus)
  | some (.ok documents) =>
      inferInstanceAs (Decidable (documents.Perm (usuarios.filter (isAlumnoDe campus))))
  | some (.error _) | none => .isTrue trivial

-- The list of students has been loaded.
def AlumnosScreen.loaded (screen : AlumnosScreen) : Bool :=
  match screen.answer with
  | some (.ok _) => true
  | _ => false

section Students

variable {usuarios : List Document} {state : State}

theorem isAlumnoDe_campus {campus campus' : String} {document : Document}
    (h : isAlumnoDe campus document = true) (h' : isAlumnoDe campus' document = true) :
    campus = campus' := by
  simp only [isAlumnoDe, Bool.and_eq_true, Document.fieldIs_iff] at h h'
  exact Option.some.inj (h.1.symm.trans h'.1)

theorem AlumnosScreen.Shows.perm {campuses : List CampusScreen} {screen : AlumnosScreen}
    (h : screen.Shows campuses) (hread : ReadFrom usuarios screen.view.campus screen.answer)
    (hloaded : screen.loaded = true) :
    screen.view.AlumnosArr.Perm
      ((usuarios.filter (isAlumnoDe screen.view.campus)).map userOf) := by
  rw [h.AlumnosArr]
  match hanswer : screen.answer with
  | none => simp [AlumnosScreen.loaded, hanswer] at hloaded
  | some (.error err) => simp [AlumnosScreen.loaded, hanswer] at hloaded
  | some (.ok documents) =>
      rw [hanswer] at hread
      exact List.Perm.map userOf hread

-- Several lists together.
theorem flatMap_AlumnosArr (hshows : Shows state)
    (hread : ∀ screen ∈ state.alumnos, ReadFrom usuarios screen.view.campus screen.answer)
    {opened : List AlumnosScreen}
    (hopened : ∀ screen ∈ opened, screen ∈ state.alumnos ∧ screen.loaded = true)
    (hdistinct : (opened.map (·.view.campus)).Nodup) :
    (opened.flatMap (·.view.AlumnosArr)).Perm
      ((usuarios.filter fun usuario =>
        (opened.map (·.view.campus)).any (isAlumnoDe · usuario)).map userOf) := by
  have hlists : (opened.flatMap (·.view.AlumnosArr)).Perm
      (opened.flatMap fun screen =>
        (usuarios.filter (isAlumnoDe screen.view.campus)).map userOf) := by
    apply List.Perm.flatMap_left
    intro screen hs
    obtain ⟨hmem, hloaded⟩ := hopened screen hs
    exact (hshows.alumnos screen hmem).perm (hread screen hmem) hloaded
  have hgroups : (opened.flatMap fun screen =>
        (usuarios.filter (isAlumnoDe screen.view.campus)).map userOf) =
      ((opened.map (·.view.campus)).flatMap fun campus =>
        usuarios.filter (isAlumnoDe campus)).map userOf := by
    rw [List.flatMap_map, List.map_flatMap]
  rw [hgroups] at hlists
  have hone : ∀ campus campus' document, isAlumnoDe campus document = true →
      isAlumnoDe campus' document = true → campus = campus' :=
    fun _ _ _ hfirst hlast => isAlumnoDe_campus hfirst hlast
  exact hlists.trans ((Loop.flatMap_filter_perm hone hdistinct usuarios).map userOf)

end Students

private def coordinador : Document :=
  ⟨"L02", [("nombre", .string "Ximena"), ("campus", .string "Leon"), ("rol", .string "Coord")]⟩

private def alumno (documentID campus : String) : Document :=
  ⟨documentID, [("campus", .string campus), ("rol", .string "Alumno")]⟩

private def todos : List Document :=
  [alumno "A31" "Leon", coordinador, alumno "A32" "Saltillo", alumno "A33" "Leon",
    alumno "A34" "Celaya"]

private def nombre (documentID campus : String) : Document :=
  ⟨documentID, [("campus", .string campus)]⟩

-- The second campus first; its list is answered when it has been left already.
private def recorrido : List Event :=
  [.campus (userOf coordinador),
    .campusAnswer 0 (.ok [nombre "c1" "Leon", nombre "c2" "Saltillo"]), .selectCampus 1, .dismiss,
    .selectCampus 0, .alumnosAnswer 1 (.ok [alumno "A33" "Leon", alumno "A31" "Leon"]),
    .alumnosAnswer 0 (.ok [alumno "A32" "Saltillo"])]

end AppPrepanet.Directorio
