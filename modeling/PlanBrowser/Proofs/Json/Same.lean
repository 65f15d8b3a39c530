import PlanBrowser.Proofs.Json.Layout

/-!
# What a reader keeps of a value

A reader sorts the members of each object by name, and of several members of one name it keeps the last.  If no object
has two members of one name, nothing is lost: the value that is read is the same but for the order of members.

* `KeyMap.ofEntries_perm` — the map of entries with different keys has all of them;
* `Json.Distinct` — no object in a value has two members of one name;
* `Json.Same` — the same value, whatever the order of members;
* `Json.same_sorted` — **what a reader makes of a value is the same value**.
-/

namespace PlanBrowser

namespace KeyMap

variable {α : Type}

theorem insert_perm {key : String} {m : List (String × α)} (h : key ∉ m.map (·.1)) (value : α) :
    (insert key value m).Perm ((key, value) :: m) := by
  induction m with
  | nil => exact List.Perm.refl _
  | cons e rest ih =>
    obtain ⟨k, v⟩ := e
    rw [List.map_cons, List.mem_cons, not_or] at h
    rw [insert, if_neg h.1]
    split
    · exact List.Perm.refl _
    · exact ((ih h.2).cons (k, v)).trans (List.Perm.swap _ _ _)

/-- Entries with different keys are all added to a map that has none of the keys. -/
theorem foldl_insert_perm {m es : List (String × α)} (h : ((m ++ es).map (·.1)).Nodup) :
    (es.foldl (fun m e => insert e.1 e.2 m) m).Perm (m ++ es) := by
  induction es generalizing m with
  | nil => rw [List.append_nil, List.foldl_nil]
  | cons e es ih =>
    have hfront : (m ++ e :: es).Perm (e :: m ++ es) := List.perm_middle
    have hnodup : ((e :: m ++ es).map (·.1)).Nodup := (hfront.map (·.1)).nodup h
    have hkey : e.1 ∉ m.map (·.1) := by
      rw [List.cons_append, List.map_cons, List.nodup_cons, List.map_append, List.mem_append, not_or] at hnodup
      exact hnodup.1.1
    have hadded : (insert e.1 e.2 m ++ es).Perm (e :: m ++ es) := (insert_perm hkey e.2).append_right es
    exact (ih ((hadded.map (·.1)).symm.nodup hnodup)).trans (hadded.trans hfront.symm)

/-- **The map of entries with different keys has all of them.** -/
theorem ofEntries_perm {es : List (String × α)} (h : (es.map (·.1)).Nodup) : (ofEntries es).Perm es :=
  foldl_insert_perm h

end KeyMap

namespace Json

/-- **No object in a value has two members of one name.** -/
inductive Distinct : Json → Prop
  | null : Distinct .null
  | bool (b : Bool) : Distinct (.bool b)
  | number (n : Number) : Distinct (.number n)
  | string (s : String) : Distinct (.string s)
  | array {vs : List Json} (h : ∀ v ∈ vs, Distinct v) : Distinct (.array vs)
  | object {ms : List (String × Json)} (hnames : (ms.map (·.1)).Nodup) (h : ∀ m ∈ ms, Distinct m.2) :
      Distinct (.object ms)

/-- **The same value.**  The members of an object may be listed in any order, and nothing else differs. -/
inductive Same : Json → Json → Prop
  | refl (v : Json) : Same v v
  | trans {u v w : Json} : Same u v → Same v w → Same u w
  | reorder {ms ns : List (String × Json)} : ms.Perm ns → Same (.object ms) (.object ns)
  | item (before after : List Json) {v w : Json} : Same v w →
      Same (.array (before ++ v :: after)) (.array (before ++ w :: after))
  | member (before after : List (String × Json)) (name : String) {v w : Json} : Same v w →
      Same (.object (before ++ (name, v) :: after)) (.object (before ++ (name, w) :: after))

theorem same_items {vs : List Json} (h : ∀ v ∈ vs, Same v v.sorted) (before : List Json) :
    Same (.array (before ++ vs)) (.array (before ++ vs.map sorted)) := by
  induction vs generalizing before with
  | nil => exact .refl _
  | cons v vs ih =>
    rw [List.forall_mem_cons] at h
    have hrest := ih h.2 (before ++ [v.sorted])
    rw [List.append_assoc, List.append_assoc] at hrest
    exact (Same.item before vs h.1).trans hrest

theorem same_members {ms : List (String × Json)} (h : ∀ m ∈ ms, Same m.2 m.2.sorted)
    (before : List (String × Json)) :
    Same (.object (before ++ ms)) (.object (before ++ ms.map fun m => (m.1, m.2.sorted))) := by
  induction ms generalizing before with
  | nil => exact .refl _
  | cons m ms ih =>
    rw [List.forall_mem_cons] at h
    have hrest := ih h.2 (before ++ [(m.1, m.2.sorted)])
    rw [List.append_assoc, List.append_assoc] at hrest
    exact (Same.member before ms m.1 h.1).trans hrest

/-- **What a reader makes of a value is the same value.** -/
theorem same_sorted {v : Json} (h : v.Distinct) : Same v v.sorted := by
  induction h with
  | null => exact .refl _
  | bool b => exact .refl _
  | number n => exact .refl _
  | string s => exact .refl _
  | @array vs _ ih =>
    rw [sorted, sortedItems_eq]
    exact same_items ih []
  | @object ms hnames _ ih =>
    have hkept : (sortedMembers ms).map (·.1) = ms.map (·.1) := by
      rw [sortedMembers_eq, List.map_map]
      rfl
    have hperm := KeyMap.ofEntries_perm (hkept ▸ hnames)
    rw [sorted]
    refine Same.trans ?_ (.reorder hperm.symm)
    rw [sortedMembers_eq]
    exact same_members ih []

end Json

end PlanBrowser
