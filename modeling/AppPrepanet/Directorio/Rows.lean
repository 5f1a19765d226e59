import AppPrepanet.Directorio.Screens
import AppPrepanet.Tablas

namespace AppPrepanet.Directorio

open Firestore
open Tablas (configure)

-- The background of every other row.
def stripe (row : ℕ) : Background :=
  if row % 2 = 0 then .rgb 206 235 255 else .rgb 243 243 243

section Campus

-- A row of the table of campuses on a cell: it writes all that any row writes.
def campusFill (call : TableViewControllerCampus × ℕ) (nombre : String)
    (cell : TableViewCampusCell) : TableViewCampusCell :=
  { cell with
    lbNombreCampus.text := nombre
    View.backgroundColor := some (stripe call.2) }

theorem configure_campus (cell : TableViewCampusCell) (call : TableViewControllerCampus × ℕ) :
    configure TableViewControllerCampus.cellForRowAt cell call =
      call.1.campusArr[call.2]?.map fun nombre => campusFill call nombre cell := by
  unfold configure TableViewControllerCampus.cellForRowAt campusFill
  cases hnombre : call.1.campusArr[call.2]? with
  | none => split_ifs <;> rfl
  | some nombre =>
      by_cases hrow : call.2 % 2 = 0
      · simp [stripe, hrow]
      · simp [stripe, hrow]

-- Whatever the cell has shown before.
theorem cellForRowAt_campus {screen : TableViewControllerCampus} {row : ℕ} {nombre : String}
    (hnombre : screen.campusArr[row]? = some nombre)
    {before : List (TableViewControllerCampus × ℕ)} {cell : TableViewCampusCell}
    (hcell : Transition.run (configure TableViewControllerCampus.cellForRowAt) .storyboard before =
      some cell) :
    screen.cellForRowAt cell row = some (campusFill (screen, row) nombre .storyboard) := by
  have hshown := configure_campus cell (screen, row)
  rw [hnombre, Option.map_some] at hshown
  rw [← Reuse.fill_reused configure_campus (fun _ _ _ _ _ => rfl) hcell (screen, row) nombre]
  exact hshown

end Campus

section Alumnos

-- The same for the table of students.
def alumnoFill (call : TableViewControllerAlumnos × ℕ) (alumno : User)
    (cell : TableViewAlumnoCell) : TableViewAlumnoCell :=
  { cell with
    lbMatriculaAlumno.text := alumno.matricula
    View.backgroundColor := some (stripe call.2) }

theorem configure_alumno (cell : TableViewAlumnoCell) (call : TableViewControllerAlumnos × ℕ) :
    configure TableViewControllerAlumnos.cellForRowAt cell call =
      call.1.AlumnosArr[call.2]?.map fun alumno => alumnoFill call alumno cell := by
  unfold configure TableViewControllerAlumnos.cellForRowAt alumnoFill
  cases halumno : call.1.AlumnosArr[call.2]? with
  | none => split_ifs <;> rfl
  | some alumno =>
      by_cases hrow : call.2 % 2 = 0
      · simp [stripe, hrow]
      · simp [stripe, hrow]

theorem cellForRowAt_alumno {screen : TableViewControllerAlumnos} {row : ℕ} {alumno : User}
    (halumno : screen.AlumnosArr[row]? = some alumno)
    {before : List (TableViewControllerAlumnos × ℕ)} {cell : TableViewAlumnoCell}
    (hcell : Transition.run (configure TableViewControllerAlumnos.cellForRowAt) .storyboard
      before = some cell) :
    screen.cellForRowAt cell row = some (alumnoFill (screen, row) alumno .storyboard) := by
  have hshown := configure_alumno cell (screen, row)
  rw [halumno, Option.map_some] at hshown
  rw [← Reuse.fill_reused configure_alumno (fun _ _ _ _ _ => rfl) hcell (screen, row) alumno]
  exact hshown

end Alumnos

-- In every state each row that a table of campuses or of students knows of is there. On a cell
-- that has shown any other rows it shows the campus or the student that the answer has at this
-- place, on the background of its parity, and selecting it hands over that campus or student.
theorem row_opens_what_it_shows (events : List Event) (final : State)
    (hrun : Transition.run step start events = some final) :
    (∀ screen ∈ final.campuses, ∀ row < screen.view.rows, ∃ nombre,
      (nombresCampus screen.answer)[row]? = some nombre ∧
        screen.view.prepare row = some { campus := nombre } ∧
        ∀ before cell, Transition.run (configure TableViewControllerCampus.cellForRowAt)
            .storyboard before = some cell →
          screen.view.cellForRowAt cell row = some
            { lbNombreCampus := { text := nombre }
              View := { backgroundColor := some (stripe row) } }) ∧
    ∀ screen ∈ final.alumnos, ∀ row < screen.view.rows, ∃ alumno,
      (alumnosDe screen.answer)[row]? = some alumno ∧
        screen.view.prepare row = some
          { user := alumno, nombre := alumno.nombre, campus := alumno.campus } ∧
        ∀ before cell, Transition.run (configure TableViewControllerAlumnos.cellForRowAt)
            .storyboard before = some cell →
          screen.view.cellForRowAt cell row = some
            { lbMatriculaAlumno := { text := alumno.matricula }
              View := { backgroundColor := some (stripe row) } } := by
  have hshows := shows_run hrun
  constructor
  · intro screen hs row hrow
    have hscreen := hshows.campuses screen hs
    rw [hscreen.rows] at hrow
    have hnombre : screen.view.campusArr[row]? = some screen.view.campusArr[row] :=
      List.getElem?_eq_getElem hrow
    refine ⟨screen.view.campusArr[row], ?_, ?_, fun before cell hcell => ?_⟩
    · rw [← hscreen.campusArr, hnombre]
    · simp [TableViewControllerCampus.prepare, hnombre]
    · exact cellForRowAt_campus hnombre hcell
  · intro screen hs row hrow
    have hscreen := hshows.alumnos screen hs
    rw [hscreen.rows] at hrow
    have halumno : screen.view.AlumnosArr[row]? = some screen.view.AlumnosArr[row] :=
      List.getElem?_eq_getElem hrow
    refine ⟨screen.view.AlumnosArr[row], ?_, ?_, fun before cell hcell => ?_⟩
    · rw [← hscreen.AlumnosArr, halumno]
    · simp [TableViewControllerAlumnos.prepare, halumno]
    · exact cellForRowAt_alumno halumno hcell

private def yolanda : User :=
  { nombre := "Yolanda", email := "", matricula := "L03", campus := "Leon", rol := "Coord" }

private def puebla : Document := ⟨"c3", [("campus", .string "Puebla")]⟩

private def zoe : Document :=
  ⟨"A35", [("campus", .string "Puebla"), ("rol", .string "Alumno")]⟩

private def hastaZoe : List Event :=
  [.campus yolanda, .campusAnswer 0 (.ok [puebla]), .selectCampus 0,
    .alumnosAnswer 0 (.ok [zoe]), .alumnosCell 0 .storyboard]

theorem row_opens_what_it_shows_hastaZoe :
    ∃ final, Transition.run step start hastaZoe = some final ∧ final.alumnos.length = 1 ∧
      ∀ screen ∈ final.alumnos, ∀ row < screen.view.rows, ∃ alumno,
        (alumnosDe screen.answer)[row]? = some alumno ∧
          screen.view.prepare row = some
            { user := alumno, nombre := alumno.nombre, campus := alumno.campus } ∧
          ∀ before cell, Transition.run (configure TableViewControllerAlumnos.cellForRowAt)
              .storyboard before = some cell →
            screen.view.cellForRowAt cell row = some
              { lbMatriculaAlumno := { text := alumno.matricula }
                View := { backgroundColor := some (stripe row) } } :=
  ⟨_, rfl, rfl, (row_opens_what_it_shows hastaZoe _ rfl).2⟩

end AppPrepanet.Directorio
