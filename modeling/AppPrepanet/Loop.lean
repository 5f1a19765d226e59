import Mathlib.Data.List.Forall2
import Mathlib.Data.List.Induction
import Mathlib.Data.List.Nodup

namespace AppPrepanet.Loop

variable {α β : Type*}

-- What no pass of a loop changes, the loop does not change.
theorem foldl_frame {γ : Type*} (f : β → α → β) (view : β → γ)
    (h : ∀ state item, view (f state item) = view state) (items : List α) (start : β) :
    view (items.foldl f start) = view start := by
  induction items generalizing start with
  | nil => rfl
  | cons item rest ih => exact (ih _).trans (h start item)

-- A loop seen through one of the variables it works on.
theorem foldl_project {γ : Type*} {f : β → α → β} {g : γ → α → γ} (view : β → γ) (Inv : β → Prop)
    (hinv : ∀ state item, Inv state → Inv (f state item))
    (hview : ∀ state item, Inv state → view (f state item) = g (view state) item)
    (items : List α) {start : β} (hstart : Inv start) :
    view (items.foldl f start) = items.foldl g (view start) := by
  induction items generalizing start with
  | nil => rfl
  | cons item rest ih =>
      rw [List.foldl_cons, List.foldl_cons, ih (hinv start item hstart), hview start item hstart]

-- The order of the items does not matter to a loop whose passes commute as soon as they
-- work for different keys, as long as no key comes twice.
theorem foldl_perm {κ : Type*} {key : α → κ} {f : β → α → β}
    (hcomm : ∀ state first last, key first ≠ key last →
      f (f state first) last = f (f state last) first)
    {items items' : List α} (hnodup : (items.map key).Nodup) (h : items.Perm items')
    (start : β) : items.foldl f start = items'.foldl f start := by
  apply h.foldl_eq'
  intro first hfirst last hlast state
  by_cases hkey : key first = key last
  · rw [List.inj_on_of_nodup_map hnodup hfirst hlast hkey]
  · exact hcomm state first last hkey

-- A loop that overwrites a variable at every match and does not stop there
-- ends with the value of the last match.
theorem foldl_overwrite (p : α → Bool) (f : α → β) (start : β) (items : List α) :
    items.foldl (fun value item => if p item then f item else value) start =
      ((items.findRev? p).map f).getD start := by
  induction items using List.reverseRecOn with
  | nil => rfl
  | append_singleton items item ih =>
      rw [List.foldl_append, ih]
      cases hp : p item <;> simp [hp]

-- The same where the variable is one field of what the loop works on, and the matches
-- depend on the other fields.
theorem foldl_overwrite_field {γ : Type*} (get : β → γ) (put : β → γ → β) (p : β → α → Bool)
    (f : α → γ) (hget : ∀ state, put state (get state) = state)
    (hput : ∀ state old new, put (put state old) new = put state new)
    (hp : ∀ state value item, p (put state value) item = p state item) (start : β)
    (items : List α) :
    items.foldl (fun state item => if p state item then put state (f item) else state) start =
      put start (((items.findRev? (p start)).map f).getD (get start)) := by
  induction items using List.reverseRecOn with
  | nil => exact (hget start).symm
  | append_singleton items item ih =>
      rw [List.foldl_append, ih, List.foldl_cons, List.foldl_nil, hp]
      cases hmatch : p start item <;> simp [hmatch, hput]

-- A loop that only ever raises a flag computes an existential.
theorem foldl_raise (p : α → Bool) (start : Bool) (items : List α) :
    items.foldl (fun flag item => if p item then true else flag) start =
      (start || items.any p) := by
  induction items generalizing start with
  | nil => simp
  | cons item rest ih =>
      rw [List.foldl_cons, ih]
      cases hp : p item <;> simp [hp]

-- Two passes, one after the other: the second has the last word.
theorem findRev?_append (p : α → Bool) (first last : List α) :
    (first ++ last).findRev? p = (last.findRev? p).or (first.findRev? p) := by
  simp [List.find?_append]

theorem findRev?_isSome (p : α → Bool) (items : List α) :
    (items.findRev? p).isSome ↔ ∃ item ∈ items, p item := by
  simp [List.find?_isSome]

-- Only what stands in the list can be found.
theorem findRev?_congr {p q : α → Bool} {items : List α} (h : ∀ item ∈ items, p item = q item) :
    items.findRev? p = items.findRev? q := by
  induction items using List.reverseRecOn with
  | nil => rfl
  | append_singleton items item ih =>
      have hrest := ih fun other ho => h other (List.mem_append_left _ ho)
      have hlast := h item (List.mem_append_right _ (List.mem_singleton_self item))
      rw [findRev?_append, findRev?_append, hrest]
      simp [hlast]

-- A loop that decodes an item, works on it, and gives up when one does not decode.
theorem foldlM_decode {γ : Type*} (f : α → Option β) (g : γ → β → γ) (start : γ)
    (items : List α) :
    items.foldlM (fun state item => (f item).map fun value => g state value) start =
      (items.mapM f).map fun values => values.foldl g start := by
  induction items generalizing start with
  | nil => simp
  | cons item rest ih =>
      cases hf : f item with
      | none => simp [List.foldlM_cons, List.mapM_cons, hf]
      | some value =>
          simp only [List.foldlM_cons, List.mapM_cons, hf, Option.map_some, Option.bind_eq_bind,
            Option.bind_some, ih]
          cases rest.mapM f <;> simp

theorem foldl_append_singleton (start items : List α) :
    items.foldl (fun array item => array ++ [item]) start = start ++ items := by
  induction items generalizing start with
  | nil => simp
  | cons item rest ih => simp [ih]

theorem foldlM_append (f : α → Option β) (start : List β) (items : List α) :
    items.foldlM (fun array item => (f item).map fun value => array ++ [value]) start =
      (items.mapM f).map (start ++ ·) := by
  simp only [foldlM_decode, foldl_append_singleton]

-- The outer loop of two nested ones, seen from one element of the inner array.
theorem foldl_map_comm (f : α → β → β) (items : List α) (array : List β) :
    items.foldl (fun array item => array.map (f item)) array =
      array.map fun value => items.foldl (fun value item => f item value) value := by
  induction items generalizing array with
  | nil => simp
  | cons item rest ih => simp [ih]

-- Of several parts put together, one is the whole exactly when the others are empty.
theorem flatMap_eq_iff {f : α → List β} {keys : List α} {last : α} (hnodup : keys.Nodup)
    (hlast : last ∈ keys) :
    keys.flatMap f = f last ↔ ∀ key ∈ keys, key ≠ last → f key = [] := by
  obtain ⟨before, after, rfl⟩ := List.append_of_mem hlast
  have hne : ∀ key ∈ before ++ after, key ≠ last := by
    intro key hk heq
    rw [heq] at hk
    exact (List.nodup_middle.mp hnodup).notMem hk
  constructor
  · intro h key hk hkey
    have hlength := congrArg List.length h
    simp only [List.flatMap_append, List.flatMap_cons, List.length_append] at hlength
    have hbefore : before.flatMap f = [] := List.length_eq_zero_iff.mp (by omega)
    have hafter : after.flatMap f = [] := List.length_eq_zero_iff.mp (by omega)
    rcases List.mem_append.mp hk with hk | hk
    · exact List.flatMap_eq_nil_iff.mp hbefore key hk
    · rcases List.mem_cons.mp hk with rfl | hk
      · exact absurd rfl hkey
      · exact List.flatMap_eq_nil_iff.mp hafter key hk
  · intro h
    have hbefore : before.flatMap f = [] := List.flatMap_eq_nil_iff.mpr fun key hk =>
      h key (List.mem_append_left _ hk) (hne key (List.mem_append_left _ hk))
    have hafter : after.flatMap f = [] := List.flatMap_eq_nil_iff.mpr fun key hk =>
      h key (List.mem_append_right _ (List.mem_cons_of_mem _ hk))
        (hne key (List.mem_append_right _ hk))
    simp [hbefore, hafter]

-- Where no item has two keys, one pass for each key finds every item that has one of the keys
-- once.
theorem flatMap_filter_perm {κ : Type*} {is : κ → α → Bool}
    (hone : ∀ k k' item, is k item = true → is k' item = true → k = k') {keys : List κ}
    (hnodup : keys.Nodup) (items : List α) :
    (keys.flatMap fun k => items.filter (is k)).Perm
      (items.filter fun item => keys.any fun k => is k item) := by
  induction keys with
  | nil => simp
  | cons k rest ih =>
      obtain ⟨hnew, hrest⟩ := List.nodup_cons.mp hnodup
      let found := items.filter fun item => (k :: rest).any fun k => is k item
      have hfirst : items.filter (is k) = found.filter (is k) := by
        rw [List.filter_filter]
        apply List.filter_congr
        intro item _
        cases hk : is k item <;> simp [hk]
      have hothers : (items.filter fun item => rest.any fun k => is k item) =
          found.filter fun item => !is k item := by
        rw [List.filter_filter]
        apply List.filter_congr
        intro item _
        cases hk : is k item with
        | false => simp [hk]
        | true =>
            have hnone : ∀ other ∈ rest, is other item = false := by
              intro other ho
              by_contra hother
              have hsame := hone k other item hk (by simpa using hother)
              exact hnew (hsame ▸ ho)
            simpa [hk] using hnone
      rw [List.flatMap_cons]
      refine ((ih hrest).append_left _).trans ?_
      rw [hfirst, hothers]
      exact List.filter_append_perm _ found

theorem mapM_eq_some_length {f : α → Option β} {items : List α} {values : List β}
    (h : items.mapM f = some values) : values.length = items.length := by
  induction items generalizing values with
  | nil => simp_all
  | cons item rest ih =>
      simp only [List.mapM_cons, Option.bind_eq_bind, Option.bind_eq_some_iff, Option.pure_def,
        Option.some.injEq] at h
      obtain ⟨value, _, tail, ht, rfl⟩ := h
      simp [ih ht]

theorem mapM_eq_some_mem {f : α → Option β} {items : List α} {values : List β}
    (h : items.mapM f = some values) {value : β} (hv : value ∈ values) :
    ∃ item ∈ items, f item = some value := by
  induction items generalizing values with
  | nil => simp_all
  | cons item rest ih =>
      simp only [List.mapM_cons, Option.bind_eq_bind, Option.bind_eq_some_iff, Option.pure_def,
        Option.some.injEq] at h
      obtain ⟨head, hh, tail, ht, rfl⟩ := h
      rcases List.mem_cons.mp hv with rfl | hv
      · exact ⟨item, List.mem_cons_self, hh⟩
      · obtain ⟨found, hf, he⟩ := ih ht hv
        exact ⟨found, List.mem_cons_of_mem _ hf, he⟩

theorem exists_mem_of_mapM {f : α → Option β} {items : List α} {values : List β}
    (h : items.mapM f = some values) {item : α} (hi : item ∈ items) :
    ∃ value ∈ values, f item = some value := by
  induction items generalizing values with
  | nil => cases hi
  | cons head rest ih =>
      simp only [List.mapM_cons, Option.bind_eq_bind, Option.bind_eq_some_iff, Option.pure_def,
        Option.some.injEq] at h
      obtain ⟨value, hv, tail, ht, rfl⟩ := h
      rcases List.mem_cons.mp hi with rfl | hi
      · exact ⟨value, List.mem_cons_self, hv⟩
      · obtain ⟨found, hf, he⟩ := ih ht hi
        exact ⟨found, List.mem_cons_of_mem _ hf, he⟩

theorem exists_mapM_eq_some {f : α → Option β} {items : List α}
    (h : ∀ item ∈ items, ∃ value, f item = some value) : ∃ values, items.mapM f = some values := by
  induction items with
  | nil => exact ⟨[], rfl⟩
  | cons item rest ih =>
      obtain ⟨value, hv⟩ := h item List.mem_cons_self
      obtain ⟨values, hr⟩ := ih fun other ho => h other (List.mem_cons_of_mem _ ho)
      exact ⟨value :: values, by simp [List.mapM_cons, hv, hr]⟩

theorem mapM_eq_some_map {γ : Type*} {f : α → Option β} {g : β → γ} {h : α → γ}
    (hf : ∀ item value, f item = some value → g value = h item) {items : List α}
    {values : List β} (hm : items.mapM f = some values) : values.map g = items.map h := by
  induction items generalizing values with
  | nil => simp_all
  | cons item rest ih =>
      simp only [List.mapM_cons, Option.bind_eq_bind, Option.bind_eq_some_iff, Option.pure_def,
        Option.some.injEq] at hm
      obtain ⟨value, hv, tail, ht, rfl⟩ := hm
      rw [List.map_cons, List.map_cons, hf item value hv, ih ht]

theorem mapM_of_forall₂ {γ : Type*} {f : α → Option β} {g : γ → β} {items : List α}
    {origins : List γ} (h : List.Forall₂ (fun item origin => f item = some (g origin)) items origins) :
    items.mapM f = some (origins.map g) := by
  induction h with
  | nil => rfl
  | cons hd _ ih => simp [List.mapM_cons, hd, ih]

end AppPrepanet.Loop
