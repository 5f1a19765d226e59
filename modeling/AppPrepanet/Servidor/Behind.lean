import AppPrepanet.Inscripciones.Behind
import AppPrepanet.Servidor.Alone

namespace AppPrepanet.Servidor

open Coleccion Firestore Inscripciones ViewControllerWorkshop

-- Coordinators only advance.
def Advancing (state : State) : Event → Prop
  | .setStatus documentID status =>
      ∀ document ∈ state.collection, document.documentID = documentID → Advance document status
  | _ => True

instance (state : State) : DecidablePred (Advancing state)
  | .setStatus _ _ => by unfold Advancing; infer_instance
  | .app _ _ | .read _ _ _ | .deliver _ _ | .deliverError _ _ _ | .store _ _ _ | .completed _ _
  | .failed _ _ _ => .isTrue trivial

-- This student has a stored document with this value in the field, and its status is this one
-- or one that comes after it.
def Backed (state : State) (user : User) (field value status : String) : Prop :=
  ∃ document ∈ state.collection,
    document.fieldIs "matricula" user.matricula = true ∧ document.fieldIs field value = true ∧
    ∃ now, document.string "status" = some now ∧ Reaches status now

-- This student has enrolled, on some device, with this value in the field.
def HandedOver (state : State) (user : User) (field value : String) : Prop :=
  ∃ sent ∈ state.outbox, sent.isOf user.matricula ∧
    sent.data.lookup field = some (.string value)

section Share

variable {student : User} {screens writes : List (ℕ × ℕ)} {sent : List Sent} {state : State}
  {image : Inscripciones.State} {event : Event} {own : Inscripciones.Event}

theorem advancing_of_renders (h : Follows student screens writes sent state image)
    (hadvance : Advancing state event) (hrenders : Renders screens writes state event own) :
    Inscripciones.Advancing image own := by
  cases hrenders with
  | setStatus documentID status =>
      exact fun document hd hid => hadvance document (h.mem_collection hd) hid
  | openDetail _ _ _ | read _ _ _ _ | deliver _ _ | deliverError _ _ _ | enrollBt _ _ _
  | store _ _ _ | completed _ _ | failed _ _ _ => trivial

theorem Follows.backed (h : Follows student screens writes sent state image)
    {field value status : String} (hbacked : Inscripciones.Backed image field value status) :
    Backed state student field value status := by
  obtain ⟨document, hd, hmatricula, hrest⟩ := hbacked
  rw [h.user] at hmatricula
  exact ⟨document, h.mem_collection hd, hmatricula, hrest⟩

theorem Follows.handedOver (h : Follows student screens writes sent state image)
    {field value : String} (hhanded : Inscripciones.HandedOver image field value) :
    HandedOver state student field value := by
  obtain ⟨write, hw, hvalue⟩ := hhanded
  rw [h.writes] at hw
  obtain ⟨item, hitem, rfl⟩ := List.mem_map.mp hw
  obtain ⟨name, hname, hlookup⟩ := h.sends.exists_name hitem
  exact ⟨item, mem_outbox_iff.mpr ⟨name, hlookup⟩,
    (h.sends.mem_iff name item hlookup).mp hname, hvalue⟩

end Share

-- On no device is a screen ahead of what is stored for its user by anything but the user's own
-- enrolments: whatever status it shows, that one or a later one is stored, or it is the
-- 'En Proceso' of an enrolment that the user has made and the screen has read.
theorem no_device_ahead (count : ℕ) (collection : List Document) (events : List Event)
    (final : State) (hadvance : Transition.Along step Advancing (start count collection) events)
    (hrun : Transition.run step (start count collection) events = some final)
    (honly : OneUserEach final) :
    ∀ device ∈ final.devices, ∀ screen ∈ device.screens,
      let user := screen.view.user
      let workshop := screen.view.workshop
      let label := screen.view.lbDescEstado.text
      (label = "No Inscrito" ∨ Backed final user "tallerID" workshop.wkID label ∨
        (label = "En Proceso" ∧ HandedOver final user "tallerID" workshop.wkID ∧
          ∃ inscripcion ∈ screen.view.inscripciones, inscripcion.wkID = workshop.wkID ∧
            inscripcion.status = "En Proceso")) ∧
      ∀ row ∈ screen.view.reqs,
        row.status = "" ∨ Backed final user "tallerTitle" row.req row.status ∨
          (row.status = "En Proceso" ∧ HandedOver final user "tallerTitle" row.req ∧
            ∃ inscripcion ∈ screen.view.inscripciones, inscripcion.wkTitle = row.req ∧
              inscripcion.status = "En Proceso") := by
  intro device hdevice screen hscreen
  obtain ⟨image, ⟨own, halong, hown⟩, screens, writes, sent, hfollows⟩ :=
    share_run (fun _ _ _ _ _ _ _ h hevent hrenders => advancing_of_renders h hevent hrenders)
      (honly device hdevice screen hscreen) hadvance hrun
  obtain ⟨index, hindex⟩ := List.getElem?_of_mem hdevice
  obtain ⟨detail, hdetail⟩ := List.getElem?_of_mem hscreen
  have hfind : final.screenAt (index, detail) = some screen :=
    find_eq_some_iff.mpr ⟨device, hindex, hdetail⟩
  have hbehind := (behind_run halong hown).screens screen
    (List.mem_of_getElem? (hfollows.find hfind rfl))
  constructor
  · refine hbehind.label_cases.imp_right ?_
    rintro (hbacked | ⟨hproceso, hhanded, hread⟩)
    · exact .inl (hfollows.backed hbacked)
    · exact .inr ⟨hproceso, hfollows.handedOver hhanded, hread⟩
  · intro row hrow
    refine (hbehind.row_cases row hrow).imp_right ?_
    rintro (hbacked | ⟨hproceso, hhanded, hread⟩)
    · exact .inl (hfollows.backed hbacked)
    · exact .inr ⟨hproceso, hfollows.handedOver hhanded, hread⟩

private def dosDispositivos : List Event :=
  abrir 0 "u51" sara ++ abrir 1 "u51" sara ++ [.app 0 (.nav .enrollBt), .app 0 (.nav .backToList),
    .app 0 (.nav (.openDetail 0)), .read 1 0 [], .deliver 1 0,
    .read 0 1 [⟨"", enrollDataDe sara⟩], .deliver 0 1]

-- Nothing is stored yet, and one of the devices knows of the enrolment.
theorem no_device_ahead_dosDispositivos :
    ∃ final, Transition.run step (start 2 []) dosDispositivos = some final ∧
      final.collection = [] ∧
      final.devices.map (fun device => device.screens.map (·.view.lbDescEstado.text)) =
        [["No Inscrito", "En Proceso"], ["No Inscrito"]] ∧
      ∀ device ∈ final.devices, ∀ screen ∈ device.screens,
        let user := screen.view.user
        let workshop := screen.view.workshop
        let label := screen.view.lbDescEstado.text
        (label = "No Inscrito" ∨ Backed final user "tallerID" workshop.wkID label ∨
          (label = "En Proceso" ∧ HandedOver final user "tallerID" workshop.wkID ∧
            ∃ inscripcion ∈ screen.view.inscripciones, inscripcion.wkID = workshop.wkID ∧
              inscripcion.status = "En Proceso")) ∧
        ∀ row ∈ screen.view.reqs,
          row.status = "" ∨ Backed final user "tallerTitle" row.req row.status ∨
            (row.status = "En Proceso" ∧ HandedOver final user "tallerTitle" row.req ∧
              ∃ inscripcion ∈ screen.view.inscripciones, inscripcion.wkTitle = row.req ∧
                inscripcion.status = "En Proceso") :=
  ⟨_, rfl, rfl, rfl, no_device_ahead 2 [] dosDispositivos _ (by decide) rfl (by decide)⟩

end AppPrepanet.Servidor
