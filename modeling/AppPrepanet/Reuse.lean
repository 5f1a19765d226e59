import AppPrepanet.Transition

namespace AppPrepanet.Reuse

variable {Cell Call Kept Value : Type*}

-- A cell is configured by one call after another, `Ok` being the calls in use. A call leaves
-- what is `kept` as it is and writes all the rest anew, up to one attribute: `write call` is
-- what it makes of that one, `none` when it leaves it alone.
structure Overwrites (step : Cell → Call → Option Cell) (Ok : Call → Prop) (kept : Cell → Kept)
    (get : Cell → Value) (write : Call → Option Value) : Prop where
  kept_eq : ∀ {cell call shown}, Ok call → step cell call = some shown → kept shown = kept cell
  get_eq : ∀ {cell call shown}, Ok call → step cell call = some shown →
    get shown = (write call).getD (get cell)
  rest_eq : ∀ {cell cell' call shown shown'}, Ok call → step cell call = some shown →
    step cell' call = some shown' → kept shown = kept shown' → get shown = get shown' →
    shown = shown'

namespace Overwrites

variable {step : Cell → Call → Option Cell} {Ok : Call → Prop} {kept : Cell → Kept}
  {get : Cell → Value} {write : Call → Option Value} {prototype reused fresh : Cell}
  {before : List Call} {last : Call}

-- Where a call looks its item up and fills the cell with it, the filling is all there is to
-- look at.
theorem of_fill {Item : Type*} {item : Call → Option Item} {fill : Call → Item → Cell → Cell}
    (hstep : ∀ cell call, step cell call = (item call).map fun value => fill call value cell)
    (hkept : ∀ cell call value, Ok call → kept (fill call value cell) = kept cell)
    (hget : ∀ cell call value, Ok call → item call = some value →
      get (fill call value cell) = (write call).getD (get cell))
    (hrest : ∀ cell cell' call value, Ok call →
      kept (fill call value cell) = kept (fill call value cell') →
      get (fill call value cell) = get (fill call value cell') →
      fill call value cell = fill call value cell') :
    Overwrites step Ok kept get write := by
  constructor
  · intro cell call shown hok hshown
    rw [hstep] at hshown
    obtain ⟨value, _, rfl⟩ := Option.map_eq_some_iff.mp hshown
    exact hkept cell call value hok
  · intro cell call shown hok hshown
    rw [hstep] at hshown
    obtain ⟨value, hitem, rfl⟩ := Option.map_eq_some_iff.mp hshown
    exact hget cell call value hok hitem
  · intro cell cell' call shown shown' hok hshown hshown' hsame hvalue
    rw [hstep] at hshown hshown'
    obtain ⟨value, hitem, rfl⟩ := Option.map_eq_some_iff.mp hshown
    obtain ⟨value', hitem', rfl⟩ := Option.map_eq_some_iff.mp hshown'
    cases Option.some.inj (hitem.symm.trans hitem')
    exact hrest cell cell' call value hok hsame hvalue

theorem run_kept (h : Overwrites step Ok kept get write) (hok : ∀ call ∈ before, Ok call)
    (hrun : Transition.run step prototype before = some reused) : kept reused = kept prototype := by
  induction before generalizing prototype with
  | nil =>
      cases hrun
      rfl
  | cons call rest ih =>
      obtain ⟨shown, hshown, hrest⟩ := Option.bind_eq_some_iff.mp hrun
      have hothers : ∀ other ∈ rest, Ok other :=
        fun other ho => hok other (List.mem_cons_of_mem _ ho)
      rw [ih hothers hrest, h.kept_eq (hok call List.mem_cons_self) hshown]

-- The attribute is what the last call that wrote it made of it.
theorem run_get (h : Overwrites step Ok kept get write) (hok : ∀ call ∈ before, Ok call)
    (hrun : Transition.run step prototype before = some reused) :
    get reused = (before.findSomeRev? write).getD (get prototype) := by
  induction before using List.reverseRecOn generalizing reused with
  | nil =>
      cases hrun
      rfl
  | append_singleton calls call ih =>
      obtain ⟨middle, hmiddle, hcall⟩ := Transition.run_concat_eq_some.mp hrun
      have hothers : ∀ other ∈ calls, Ok other :=
        fun other ho => hok other (List.mem_append_left _ ho)
      rw [h.get_eq (hok call (by simp)) hcall, ih hothers hmiddle]
      cases hwrite : write call <;> simp [hwrite]

-- A reused cell is as good as a new one up to the attribute.
theorem reused_eq_iff_get (h : Overwrites step Ok kept get write)
    (hok : ∀ call ∈ before ++ [last], Ok call)
    (hreused : Transition.run step prototype (before ++ [last]) = some reused)
    (hfresh : step prototype last = some fresh) :
    reused = fresh ↔ get reused = get fresh := by
  constructor
  · intro heq
    rw [heq]
  · intro hget
    obtain ⟨middle, hmiddle, hlast⟩ := Transition.run_concat_eq_some.mp hreused
    have hbefore : ∀ call ∈ before, Ok call := fun call hc => hok call (List.mem_append_left _ hc)
    have hcall := hok last (by simp)
    have hkept : kept reused = kept fresh := by
      rw [h.kept_eq hcall hlast, h.kept_eq hcall hfresh, h.run_kept hbefore hmiddle]
    exact h.rest_eq hcall hlast hfresh hkept hget

-- So it is when the last call writes the attribute.
theorem reused_eq_of_write (h : Overwrites step Ok kept get write)
    (hok : ∀ call ∈ before ++ [last], Ok call)
    (hreused : Transition.run step prototype (before ++ [last]) = some reused)
    (hfresh : step prototype last = some fresh) (hlast : (write last).isSome) :
    reused = fresh := by
  obtain ⟨value, hvalue⟩ := Option.isSome_iff_exists.mp hlast
  obtain ⟨middle, _, hstep⟩ := Transition.run_concat_eq_some.mp hreused
  have hcall := hok last (by simp)
  rw [h.reused_eq_iff_get hok hreused hfresh, h.get_eq hcall hstep, h.get_eq hcall hfresh,
    hvalue, Option.getD_some, Option.getD_some]

-- Otherwise an earlier call shows through as soon as one has written the attribute, where no
-- call writes what a new cell has.
theorem reused_eq_iff (h : Overwrites step Ok kept get write)
    (hnew : ∀ call value, write call = some value → value ≠ get prototype)
    (hok : ∀ call ∈ before ++ [last], Ok call)
    (hreused : Transition.run step prototype (before ++ [last]) = some reused)
    (hfresh : step prototype last = some fresh) :
    reused = fresh ↔ (write last).isSome ∨ ∀ call ∈ before, write call = none := by
  by_cases hlast : (write last).isSome
  · simp only [hlast, true_or, iff_true]
    exact h.reused_eq_of_write hok hreused hfresh hlast
  · have hcall := hok last (by simp)
    have hnone : write last = none := Option.not_isSome_iff_eq_none.mp hlast
    have hbefore : ∀ call ∈ before, Ok call := fun call hc => hok call (List.mem_append_left _ hc)
    obtain ⟨middle, hmiddle, hstep⟩ := Transition.run_concat_eq_some.mp hreused
    rw [h.reused_eq_iff_get hok hreused hfresh, h.get_eq hcall hstep, h.get_eq hcall hfresh,
      hnone, Option.getD_none, Option.getD_none, h.run_get hbefore hmiddle]
    cases hfound : before.findSomeRev? write with
    | none =>
        have hearlier : ∀ call ∈ before, write call = none := by simpa using hfound
        exact ⟨fun _ => Or.inr hearlier, fun _ => rfl⟩
    | some value =>
        rw [List.findSomeRev?_eq_findSome?_reverse] at hfound
        obtain ⟨call, hmem, hwrite⟩ := List.exists_of_findSome?_eq_some hfound
        have hshows : value ≠ get prototype := hnew call value hwrite
        have hearlier : ¬∀ call ∈ before, write call = none := fun hall => by
          simp [hall call (List.mem_reverse.mp hmem)] at hwrite
        simp [hshows, hearlier]

end Overwrites

-- Where every filling of a cell covers the ones before, a reused cell is as good as a new one.
theorem fill_reused {Cell Call Item : Type*} {step : Cell → Call → Option Cell}
    {item : Call → Option Item} {fill : Call → Item → Cell → Cell}
    (hstep : ∀ cell call, step cell call = (item call).map fun value => fill call value cell)
    (hcovers : ∀ call value call' value' cell,
      fill call value (fill call' value' cell) = fill call value cell)
    {prototype reused : Cell} {before : List Call}
    (hrun : Transition.run step prototype before = some reused) (call : Call) (value : Item) :
    fill call value reused = fill call value prototype := by
  have hinv : ∀ cell last next, fill call value cell = fill call value prototype →
      step cell last = some next → fill call value next = fill call value prototype := by
    intro cell last next h hnext
    rw [hstep] at hnext
    obtain ⟨found, _, rfl⟩ := Option.map_eq_some_iff.mp hnext
    rw [hcovers, h]
  have hstart : fill call value prototype = fill call value prototype := rfl
  exact Transition.run_invariant hinv hstart hrun

end AppPrepanet.Reuse
