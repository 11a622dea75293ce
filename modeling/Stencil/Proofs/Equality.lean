import Mathlib.Data.List.Perm.Subperm
import Stencil.Value

/-! Equality of values that hold no doubles: it tells whether they match part by part, so it is an equivalence. -/

set_option autoImplicit false

namespace Stencil

namespace Entries

variable {α : Type} {entries others : Entries α}

/-- Different keys that are all among as many others are the others. -/
theorem Distinct.mem_keys_iff_of_subset (distinct : entries.Distinct) (within : entries.keys ⊆ others.keys)
    (length : entries.length = others.length) (key : String) : key ∈ entries.keys ↔ key ∈ others.keys := by
  have fewer : others.keys.length ≤ entries.keys.length := by simp [keys, length]
  exact ((List.subperm_of_subset distinct within).perm_of_length_le fewer).mem_iff

theorem Distinct.length_eq (distinct : entries.Distinct) (distinctOther : others.Distinct)
    (same : ∀ key, key ∈ entries.keys ↔ key ∈ others.keys) : entries.length = others.length := by
  have permuted := (List.perm_ext_iff_of_nodup distinct distinctOther).mpr same
  simpa [keys] using permuted.length_eq

end Entries

namespace Value

/-- A value without doubles at any depth. No dictionary in it enters a key twice. -/
inductive FloatFree : Value → Prop
  | none : FloatFree .none
  | bool {b : Bool} : FloatFree (.bool b)
  | integer {n : Int64} : FloatFree (.integer n)
  | text {s : String} : FloatFree (.text s)
  | safeText {s : String} : FloatFree (.safeText s)
  | list {items : List Value} : (∀ item ∈ items, FloatFree item) → FloatFree (.list items)
  | dict {entries : Entries Value} : entries.Distinct → (∀ entry ∈ entries, FloatFree entry.2) →
      FloatFree (.dict entries)
  | object {o : HostObject Value} : FloatFree (.object o)

/-- Two values match part by part: texts whatever their marks, lists place by place, dictionaries key by key whatever
their order, and host objects that are the same object. -/
inductive Matches : Value → Value → Prop
  | none : Matches .none .none
  | bool {b : Bool} : Matches (.bool b) (.bool b)
  | integer {n : Int64} : Matches (.integer n) (.integer n)
  | text {v w : Value} {s : String} : v.asText? = some s → w.asText? = some s → Matches v w
  | list {items others : List Value} : items.length = others.length →
      (∀ (index : Nat) v w, items[index]? = some v → others[index]? = some w → Matches v w) →
      Matches (.list items) (.list others)
  | dict {entries others : Entries Value} : (∀ key, key ∈ entries.keys ↔ key ∈ others.keys) →
      (∀ key v w, entries.get? key = some v → others.get? key = some w → Matches v w) →
      Matches (.dict entries) (.dict others)
  | object {o p : HostObject Value} : o.identity = p.identity → Matches (.object o) (.object p)

theorem equalItems_iff {items others : List Value} : equalItems items others = true ↔ items.length = others.length ∧
    ∀ (index : Nat) v w, items[index]? = some v → others[index]? = some w → v.equal w = true := by
  induction items generalizing others with
  | nil => cases others <;> simp [equalItems]
  | cons item items ih =>
    cases others with
    | nil => simp [equalItems]
    | cons other others =>
      rw [equalItems, Bool.and_eq_true, ih, List.length_cons, List.length_cons, Nat.add_right_cancel_iff]
      constructor
      · rintro ⟨here, length, later⟩
        refine ⟨length, fun index v w found foundOther => ?_⟩
        cases index with
        | zero =>
          cases found
          cases foundOther
          exact here
        | succ index => exact later index v w found foundOther
      · rintro ⟨length, each⟩
        exact ⟨each 0 item other rfl rfl, length, fun index => each (index + 1)⟩

theorem equalEntries_iff {entries others : Entries Value} : equalEntries entries others = true ↔
    ∀ entry ∈ entries, ∃ w, others.get? entry.1 = some w ∧ entry.2.equal w = true := by
  induction entries with
  | nil => simp [equalEntries]
  | cons entry entries ih =>
    rw [equalEntries, Bool.and_eq_true, ih, List.forall_mem_cons]
    refine and_congr_left fun _ => ?_
    cases found : others.get? entry.1 with
    | none => simp
    | some w => simp

theorem FloatFree.matches_of_equal {v w : Value} (free : v.FloatFree) (freeOther : w.FloatFree)
    (same : v.equal w = true) : v.Matches w := by
  induction free generalizing w with
  | none => cases freeOther <;> first | exact .none | simp [equal] at same
  | bool =>
    cases freeOther with
    | bool =>
      rw [equal, beq_iff_eq] at same
      exact same ▸ .bool
    | _ => simp [equal] at same
  | integer =>
    cases freeOther with
    | integer =>
      rw [equal, beq_iff_eq] at same
      exact same ▸ .integer
    | _ => simp [equal] at same
  | text | safeText =>
    cases freeOther with
    | text | safeText =>
      rw [equal, beq_iff_eq] at same
      exact .text rfl (congrArg some same.symm)
    | _ => simp [equal] at same
  | @list items free ih =>
    cases freeOther with
    | @list others freeOther =>
      rw [equal, equalItems_iff] at same
      exact .list same.1 fun index v w found foundOther => ih v (List.mem_of_getElem? found)
        (freeOther w (List.mem_of_getElem? foundOther)) (same.2 index v w found foundOther)
    | _ => simp [equal] at same
  | @dict entries distinct free ih =>
    cases freeOther with
    | @dict others distinctOther freeOther =>
      rw [equal, Bool.and_eq_true, beq_iff_eq, equalEntries_iff] at same
      obtain ⟨length, each⟩ := same
      -- Only the keys on the left are looked up, but they are as many as those on the right.
      have within : entries.keys ⊆ others.keys := by
        intro key member
        obtain ⟨entry, among, rfl⟩ := List.mem_map.mp member
        obtain ⟨w, found, -⟩ := each entry among
        exact Entries.mem_keys_iff.mpr (Option.isSome_of_mem found)
      refine .dict (distinct.mem_keys_iff_of_subset within length) fun key v w found foundOther => ?_
      have among := Entries.mem_of_get? found
      obtain ⟨_, here, equal⟩ := each (key, v) among
      obtain rfl := Option.some.inj (foundOther.symm.trans here)
      exact ih _ among (freeOther _ (Entries.mem_of_get? foundOther)) equal
    | _ => simp [equal] at same
  | object =>
    cases freeOther with
    | object =>
      rw [equal, beq_iff_eq] at same
      exact .object same
    | _ => simp [equal] at same

theorem equal_of_asText? {v w : Value} {s : String} (text : v.asText? = some s) (textOther : w.asText? = some s) :
    v.equal w = true := by
  have texts {v : Value} (text : v.asText? = some s) : v = .text s ∨ v = .safeText s := by
    cases v <;> simp_all [asText?]
  rcases texts text with rfl | rfl <;> rcases texts textOther with rfl | rfl <;> simp [equal]

theorem Matches.equal {v w : Value} (same : v.Matches w) (free : v.FloatFree) (freeOther : w.FloatFree) :
    v.equal w = true := by
  induction same with
  | none => rfl
  | bool | integer => rw [Value.equal, beq_self_eq_true]
  | text text textOther => exact equal_of_asText? text textOther
  | list length _ ih =>
    cases free with | list free =>
    cases freeOther with | list freeOther =>
    rw [Value.equal, equalItems_iff]
    exact ⟨length, fun index v w found foundOther => ih index v w found foundOther
      (free v (List.mem_of_getElem? found)) (freeOther w (List.mem_of_getElem? foundOther))⟩
  | @dict entries others keys _ ih =>
    cases free with | dict distinct free =>
    cases freeOther with | dict distinctOther freeOther =>
    rw [Value.equal, Bool.and_eq_true, beq_iff_eq, equalEntries_iff]
    refine ⟨distinct.length_eq distinctOther keys, fun (key, v) member => ?_⟩
    have found := Entries.get?_of_mem distinct member
    have bound := (keys key).mp (Entries.mem_keys_iff.mpr (Option.isSome_of_mem found))
    obtain ⟨w, foundOther⟩ := Option.isSome_iff_exists.mp (Entries.mem_keys_iff.mp bound)
    exact ⟨w, foundOther, ih key v w found foundOther (free _ member) (freeOther _ (Entries.mem_of_get? foundOther))⟩
  | object same => rw [Value.equal, same, beq_self_eq_true]

theorem FloatFree.matches_self {v : Value} (free : v.FloatFree) : v.Matches v := by
  induction free with
  | none => exact .none
  | bool => exact .bool
  | integer => exact .integer
  | text | safeText => exact .text rfl rfl
  | list _ ih =>
    refine .list rfl fun index v w found foundOther => ?_
    obtain rfl := Option.some.inj (found.symm.trans foundOther)
    exact ih v (List.mem_of_getElem? found)
  | dict _ _ ih =>
    refine .dict (fun _ => Iff.rfl) fun key v w found foundOther => ?_
    obtain rfl := Option.some.inj (found.symm.trans foundOther)
    exact ih _ (Entries.mem_of_get? found)
  | object => exact .object rfl

theorem Matches.symm {v w : Value} (same : v.Matches w) : w.Matches v := by
  induction same with
  | none => exact .none
  | bool => exact .bool
  | integer => exact .integer
  | text text textOther => exact .text textOther text
  | list length _ ih => exact .list length.symm fun index v w found foundOther => ih index w v foundOther found
  | dict keys _ ih => exact .dict (fun key => (keys key).symm) fun key v w found foundOther => ih key w v foundOther found
  | object same => exact .object same.symm

theorem Matches.trans {u v w : Value} (first : u.Matches v) (second : v.Matches w) : u.Matches w := by
  induction first generalizing w with
  | none | bool | integer => exact second
  | text text textOther =>
    cases second with
    | text textHere textLast =>
      obtain rfl := Option.some.inj (textOther.symm.trans textHere)
      exact .text text textLast
    | _ => cases textOther
  | list length _ ih =>
    cases second with
    | text none => cases none
    | list lengthLast each =>
      refine .list (length.trans lengthLast) fun index u w found foundLast => ?_
      obtain ⟨within, -⟩ := List.getElem?_eq_some_iff.mp found
      have foundMiddle := List.getElem?_eq_getElem (length ▸ within)
      exact ih index u _ found foundMiddle (each index _ w foundMiddle foundLast)
  | dict keys _ ih =>
    cases second with
    | text none => cases none
    | dict keysLast each =>
      refine .dict (fun key => (keys key).trans (keysLast key)) fun key u w found foundLast => ?_
      have bound := (keys key).mp (Entries.mem_keys_iff.mpr (Option.isSome_of_mem found))
      obtain ⟨v, foundMiddle⟩ := Option.isSome_iff_exists.mp (Entries.mem_keys_iff.mp bound)
      exact ih key u v found foundMiddle (each key v w foundMiddle foundLast)
  | object same =>
    cases second with
    | text none => cases none
    | object sameLast => exact .object (same.trans sameLast)

theorem FloatFree.equal_iff {v w : Value} (free : v.FloatFree) (freeOther : w.FloatFree) :
    (v == w) = true ↔ v.Matches w :=
  ⟨free.matches_of_equal freeOther, fun same => same.equal free freeOther⟩

/-- Among values without doubles, equal values are those that match part by part, and equality is an equivalence. -/
theorem equal_matches :
    (∀ {v w : Value}, v.FloatFree → w.FloatFree → ((v == w) = true ↔ v.Matches w)) ∧
      (∀ {v : Value}, v.FloatFree → (v == v) = true) ∧
      (∀ {v w : Value}, v.FloatFree → w.FloatFree → (v == w) = true → (w == v) = true) ∧
      ∀ {u v w : Value}, u.FloatFree → v.FloatFree → w.FloatFree → (u == v) = true → (v == w) = true →
        (u == w) = true := by
  refine ⟨fun free freeOther => free.equal_iff freeOther, fun free => ?_, fun free freeOther same => ?_,
    fun free freeOther freeLast first second => ?_⟩
  · exact (free.equal_iff free).mpr free.matches_self
  · exact (freeOther.equal_iff free).mpr ((free.equal_iff freeOther).mp same).symm
  · exact (free.equal_iff freeLast).mpr
      (((free.equal_iff freeOther).mp first).trans ((freeOther.equal_iff freeLast).mp second))

/-- Dictionaries in three orders, with a text marked in one of them and an empty list beside `None`. -/
theorem equal_matches_reordered :
    let u := Value.dict [("a", .list [.text "<b>", .integer (-1)]), ("b", .none), ("c", .bool true)]
    let v := Value.dict [("c", .bool true), ("a", .list [.safeText "<b>", .integer (-1)]), ("b", .none)]
    let w := Value.dict [("b", .none), ("c", .bool true), ("a", .list [.text "<b>", .integer (-1)])]
    u.FloatFree ∧ v.FloatFree ∧ w.FloatFree ∧ (u == v) = true ∧ (v == w) = true ∧
      u.Matches v ∧ (u == u) = true ∧ (v == u) = true ∧ (u == w) = true := by
  intro u v w
  have list {text : Value} (free : text.FloatFree) : (Value.list [text, .integer (-1)]).FloatFree :=
    .list (List.forall_mem_cons.mpr ⟨free, List.forall_mem_singleton.mpr .integer⟩)
  have freeU : u.FloatFree := .dict (by simp [Entries.Distinct, Entries.keys]) (by
    simp only [List.forall_mem_cons, List.not_mem_nil, false_implies, implies_true, and_true]
    exact ⟨list .text, .none, .bool⟩)
  have freeV : v.FloatFree := .dict (by simp [Entries.Distinct, Entries.keys]) (by
    simp only [List.forall_mem_cons, List.not_mem_nil, false_implies, implies_true, and_true]
    exact ⟨.bool, list .safeText, .none⟩)
  have freeW : w.FloatFree := .dict (by simp [Entries.Distinct, Entries.keys]) (by
    simp only [List.forall_mem_cons, List.not_mem_nil, false_implies, implies_true, and_true]
    exact ⟨.none, .bool, list .text⟩)
  have first : (u == v) = true := by decide +kernel
  have second : (v == w) = true := by decide +kernel
  obtain ⟨iff, refl, symm, trans⟩ := equal_matches
  exact ⟨freeU, freeV, freeW, first, second, (iff freeU freeV).mp first, refl freeU, symm freeU freeV first,
    trans freeU freeV freeW first second⟩

end Value

end Stencil
