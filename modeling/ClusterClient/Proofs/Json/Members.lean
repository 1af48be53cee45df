import ClusterClient.Json.Basic
import Mathlib.Data.List.Induction
import Mathlib.Data.List.Nodup
import Mathlib.Data.String.Basic
namespace ClusterClient.Json.Members

def Sorted (members : Members) : Prop := members.Pairwise (fun a b => a.1 < b.1)

theorem get?_insert (key other : String) (v : Json) (members : Members) :
    (insert key v members).get? other = if key = other then some v else members.get? other := by
  induction members with
  | nil => simp [insert,get?]
  | cons head rest ih =>
    obtain ⟨k,w⟩ := head
    rw [insert]
    split
    · rfl
    · split
      · rename_i same
        subst same
        simp only [get?]
        split <;> rfl
      · rename_i other_key
        simp only [get?]
        split
        · rename_i found
          rw [if_neg (fun same => other_key (same.trans found.symm))]
        · exact ih

theorem ne_nil_of_get? {key : String} {v : Json} {members : Members} (held : members.get? key = some v) :
    members ≠ [] := by
  intro empty
  rw [empty] at held
  cases held

theorem insert_ne_nil (key : String) (v : Json) (members : Members) : insert key v members ≠ [] := by
  have held : (insert key v members).get? key = some v := by simp [get?_insert]
  exact ne_nil_of_get? held

theorem ofList_concat (pairs : List (String × Json)) (pair : String × Json) :
    ofList (pairs ++ [pair]) = insert pair.1 pair.2 (ofList pairs) := by
  simp [ofList]

theorem ofList_ne_nil {pairs : List (String × Json)} (listed : pairs ≠ []) : ofList pairs ≠ [] := by
  rw [← List.dropLast_concat_getLast listed,ofList_concat]
  exact insert_ne_nil _ _ _

theorem get?_ofList (key : String) (pairs : List (String × Json)) :
    (ofList pairs).get? key = (pairs.reverse.find? (fun pair => pair.1 = key)).map (·.2) := by
  induction pairs using List.reverseRecOn with
  | nil => rfl
  | append_singleton pairs pair ih =>
    rw [ofList_concat,get?_insert,ih,List.reverse_concat,List.find?_cons]
    by_cases same : pair.1 = key
    · simp [same]
    · simp [same]

theorem get?_of_mem {pairs : List (String × Json)} {key : String} {v : Json}
    (once : (pairs.map (·.1)).Nodup) (listed : (key,v) ∈ pairs) : (ofList pairs).get? key = some v := by
  rw [get?_ofList]
  cases found : pairs.reverse.find? (fun pair => pair.1 = key) with
  | none =>
    have missing := List.find?_eq_none.mp found (key,v) (List.mem_reverse.mpr listed)
    simp at missing
  | some pair =>
    have same : pair.1 = key := by simpa using List.find?_some found
    have member := List.mem_reverse.mp (List.mem_of_find?_eq_some found)
    have equal := List.inj_on_of_nodup_map once member listed same
    rw [equal]
    rfl

theorem mem_insert {key : String} {v : Json} {members : Members} {pair : String × Json}
    (member : pair ∈ insert key v members) : pair = (key,v) ∨ pair ∈ members := by
  induction members with
  | nil => exact Or.inl (List.mem_singleton.mp member)
  | cons head rest ih =>
    obtain ⟨k,w⟩ := head
    rw [insert] at member
    split at member
    · exact List.mem_cons.mp member
    · split at member
      · rcases List.mem_cons.mp member with new | old
        · exact Or.inl new
        · exact Or.inr (List.mem_cons_of_mem _ old)
      · rcases List.mem_cons.mp member with same | later
        · exact Or.inr (same ▸ List.mem_cons_self)
        · exact (ih later).imp id (List.mem_cons_of_mem _)

theorem mem_ofList {pair : String × Json} {pairs : List (String × Json)} (member : pair ∈ ofList pairs) : pair ∈ pairs := by
  induction pairs using List.reverseRecOn with
  | nil => cases member
  | append_singleton pairs last ih =>
    rw [ofList_concat] at member
    rcases mem_insert member with rfl | before
    · exact List.mem_append_right _ List.mem_cons_self
    · exact List.mem_append_left _ (ih before)

theorem insert_sorted (key : String) (v : Json) {members : Members} (sorted : Sorted members) :
    Sorted (insert key v members) := by
  induction members with
  | nil => exact List.pairwise_singleton _ _
  | cons head rest ih =>
    obtain ⟨k,w⟩ := head
    obtain ⟨first,tail⟩ := List.pairwise_cons.mp sorted
    rw [insert]
    split
    · rename_i before
      refine List.pairwise_cons.mpr ⟨?_,sorted⟩
      intro pair member
      rcases List.mem_cons.mp member with rfl | later
      · exact before
      · exact lt_trans before (first pair later)
    · rename_i behind
      split
      · rename_i same
        subst same
        exact List.pairwise_cons.mpr ⟨first,tail⟩
      · rename_i other
        refine List.pairwise_cons.mpr ⟨?_,ih tail⟩
        intro pair member
        -- What is inserted further down is either the new pair, which stands behind the head, or was
        -- there.
        rcases mem_insert member with rfl | old
        · exact lt_of_le_of_ne (not_lt.mp behind) (Ne.symm other)
        · exact first pair old

theorem ofList_sorted (pairs : List (String × Json)) : Sorted (ofList pairs) := by
  induction pairs using List.reverseRecOn with
  | nil => exact List.Pairwise.nil
  | append_singleton pairs pair ih =>
    rw [ofList_concat]
    exact insert_sorted _ _ ih

theorem insert_last {key : String} {v : Json} {members : Members}
    (last : ∀ pair ∈ members, pair.1 < key) : insert key v members = members ++ [(key,v)] := by
  induction members with
  | nil => rfl
  | cons head rest ih =>
    have before := last head List.mem_cons_self
    rw [insert,if_neg (not_lt_of_gt before),if_neg (ne_of_gt before),
      ih (fun pair member => last pair (List.mem_cons_of_mem _ member)),List.cons_append]

theorem ofList_of_sorted {members : Members} (sorted : Sorted members) : ofList members = members := by
  induction members using List.reverseRecOn with
  | nil => rfl
  | append_singleton front pair ih =>
    obtain ⟨frontSorted,_,before⟩ := List.pairwise_append.mp sorted
    rw [ofList_concat,ih frontSorted]
    exact insert_last (fun other member => before other member pair List.mem_cons_self)

theorem get?_eq_some {members : Members} (sorted : members.Sorted) {key : String} {v : Json} :
    members.get? key = some v ↔ (key,v) ∈ members := by
  have once : (members.map (·.1)).Nodup :=
    List.pairwise_map.mpr (sorted.imp fun before => ne_of_lt before)
  constructor
  · intro held
    rw [← ofList_of_sorted sorted,get?_ofList,Option.map_eq_some_iff] at held
    obtain ⟨pair,found,rfl⟩ := held
    have same : pair.1 = key := by simpa using List.find?_some found
    rw [← same]
    exact List.mem_reverse.mp (List.mem_of_find?_eq_some found)
  · intro listed
    rw [← ofList_of_sorted sorted]
    exact get?_of_mem once listed

end ClusterClient.Json.Members
