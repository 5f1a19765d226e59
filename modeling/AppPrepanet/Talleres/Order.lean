import AppPrepanet.Decimal
import AppPrepanet.Talleres.Status

namespace AppPrepanet.Talleres

open Firestore TableViewControllerAWorkshop Decimal

-- The identifiers are the positive numbers in decimal, and the answer comes in the order of
-- the bytes. `<` compares the characters of two texts one by one, and UTF-8 keeps their
-- order.
structure Numbered (documents : List Document) : Prop where
  ids : ∀ document ∈ documents, ∃ n, 0 < n ∧ document.documentID = toString n
  bytes : (documents.map (·.documentID)).Pairwise (· < ·)

-- A shorter identifier is not greater than the first digits of a longer one, as many as its
-- own, when it is the smaller number.
def PrefixOrdered (ids : List String) : Prop :=
  ∀ small ∈ ids, ∀ large ∈ ids, number small < number large →
    number small ≤ number large / 10 ^ (large.length - small.length)

instance (ids : List String) : Decidable (PrefixOrdered ids) := by
  unfold PrefixOrdered; infer_instance

-- Identifiers with the same number of digits are fine.
theorem prefixOrdered_of_length {ids : List String} {digits : ℕ}
    (hlength : ∀ id ∈ ids, id.length = digits) : PrefixOrdered ids := by
  intro small hsmall large hlarge hlt
  rw [hlength small hsmall, hlength large hlarge, Nat.sub_self, Nat.pow_zero, Nat.div_one]
  exact hlt.le

-- Numbered from 1 on, there can be nine workshops.
theorem prefixOrdered_range'_iff {n : ℕ} :
    PrefixOrdered ((List.range' 1 n).map toString) ↔ n < 10 := by
  constructor
  · intro h
    by_contra hn
    have hmem : ∀ k, 1 ≤ k → k ≤ 10 → toString k ∈ (List.range' 1 n).map toString := by
      intro k hpos hk
      apply List.mem_map_of_mem
      rw [List.mem_range'_1]
      omega
    have hten := h _ (hmem 2 (by decide) (by decide)) _ (hmem 10 (by decide) (by decide))
    simp only [number_toString] at hten
    exact absurd (hten (by decide)) (by decide)
  · intro hn
    apply prefixOrdered_of_length
    · intro id hid
      obtain ⟨k, hk, rfl⟩ := List.mem_map.mp hid
      have hdigit : k < 10 := by
        rw [List.mem_range'_1] at hk
        omega
      rw [length_toString, Nat.toDigits_of_lt_base hdigit, List.length_singleton]

-- The order of the bytes is the order of the numbers under this condition only.
theorem pairwise_number_iff {ids : List String} (hids : ∀ id ∈ ids, ∃ n, 0 < n ∧ id = toString n)
    (hbytes : ids.Pairwise (· < ·)) :
    ids.Pairwise (fun first last => number first < number last) ↔ PrefixOrdered ids := by
  have hasymm : ∀ first last : String, first < last → ¬last < first := fun _ _ => String.lt_asymm
  have htotal : ∀ first ∈ ids, ∀ last ∈ ids, first < last →
      number first < number last ∨ number last < number first := by
    intro first hfirst last hlast hlt
    obtain ⟨m, _, rfl⟩ := hids first hfirst
    obtain ⟨n, _, rfl⟩ := hids last hlast
    rw [number_toString, number_toString]
    apply Nat.lt_or_gt_of_ne
    rintro rfl
    exact String.lt_irrefl _ hlt
  rw [pairwise_iff_of_pairwise hbytes hasymm (fun _ _ => Nat.lt_asymm) htotal]
  have hpair : ∀ small ∈ ids, ∀ large ∈ ids, number small < number large →
      (small < large ↔ number small ≤ number large / 10 ^ (large.length - small.length)) := by
    intro small hsmall large hlarge hlt
    obtain ⟨m, hm, rfl⟩ := hids small hsmall
    obtain ⟨n, _, rfl⟩ := hids large hlarge
    rw [number_toString, number_toString] at hlt ⊢
    exact toString_lt_toString_iff hm hlt
  constructor
  · intro h small hsmall large hlarge hlt
    exact (hpair small hsmall large hlarge hlt).mp (h small hsmall large hlarge hlt)
  · intro h small hsmall large hlarge hlt
    exact (hpair small hsmall large hlarge hlt).mpr (h small hsmall large hlarge hlt)

-- The array has the identifiers of the answer, in the order of the answer.
theorem run_load_ids {state next : State} {load : Load} {number : ℕ}
    (hrun : Transition.run step state (load.events number) = some next) :
    next.screen.workshopArr.map (·.workshop.wkID) = load.talleres.map (·.documentID) := by
  obtain ⟨_, _, _, workshops, hworkshops, harr⟩ := run_load hrun
  have hids : workshops.map (·.wkID) = load.talleres.map (·.documentID) :=
    Loop.mapM_eq_some_map (fun _ _ h => (workshopOf_eq_some h).1) hworkshops
  have hmap := congrArg (List.map (·.wkID)) harr
  rw [List.map_map, List.map_map] at hmap
  exact hmap.trans hids

-- After a load the workshops are in the order of their numbers exactly when the condition
-- on prefixes holds.
theorem inOrder_iff (user : User) (load : Load) (final : State)
    (hnumbered : Numbered load.talleres)
    (hrun : Transition.run step (start user) (load.events 0) = some final) :
    (final.screen.workshopArr.map (·.workshop)).Pairwise
        (fun first last => number first.wkID < number last.wkID) ↔
      PrefixOrdered (load.talleres.map (·.documentID)) := by
  have hids := run_load_ids hrun
  have hpositive : ∀ id ∈ load.talleres.map (·.documentID), ∃ n, 0 < n ∧ id = toString n := by
    rw [List.forall_mem_map]
    exact hnumbered.ids
  rw [← pairwise_number_iff hpositive hnumbered.bytes, ← hids]
  simp only [List.pairwise_map]

private def luis : User :=
  { nombre := "Luis", email := "luis@tec.mx", matricula := "A12", campus := "MTY", rol := "Alumno" }

private def numerado (documentID : String) : Document :=
  ⟨documentID, [("titulo", .string "Taller"), ("descripcion", .string ""),
    ("requerimientos", .array []), ("wkDate", .array [.timestamp ⟨0⟩, .timestamp ⟨5⟩])]⟩

private theorem numbered_of_eq {documents : List Document} (numbers : List ℕ)
    (hids : documents.map (·.documentID) = numbers.map toString)
    (hpositive : ∀ n ∈ numbers, 0 < n)
    (hbytes : (documents.map (·.documentID)).Pairwise (· < ·)) : Numbered documents := by
  refine ⟨fun document hd => ?_, hbytes⟩
  have hmem : document.documentID ∈ numbers.map toString := hids ▸ List.mem_map_of_mem hd
  obtain ⟨n, hn, heq⟩ := List.mem_map.mp hmem
  exact ⟨n, hpositive n hn, heq.symm⟩

theorem inOrder_iff_two :
    ∃ final, Transition.run step (start luis)
        (Load.events 0 ⟨[numerado "1", numerado "2"], []⟩) = some final ∧
      ((final.screen.workshopArr.map (·.workshop)).Pairwise
          (fun first last => number first.wkID < number last.wkID) ↔
        PrefixOrdered ["1", "2"]) :=
  ⟨_, rfl, inOrder_iff luis ⟨[numerado "1", numerado "2"], []⟩ _
    (numbered_of_eq [1, 2] (by decide) (by decide) (by decide)) rfl⟩

-- Workshop 10 comes before workshop 2.
theorem not_inOrder_ten :
    ¬∀ (user : User) (load : Load) (final : State), Numbered load.talleres →
      Transition.run step (start user) (load.events 0) = some final →
      (final.screen.workshopArr.map (·.workshop)).Pairwise
        (fun first last => number first.wkID < number last.wkID) := by
  intro h
  have hsorted := h luis ⟨[numerado "1", numerado "10", numerado "2"], []⟩ _
    (numbered_of_eq [1, 10, 2] (by decide) (by decide) (by decide)) rfl
  exact absurd hsorted (by decide)

end AppPrepanet.Talleres
