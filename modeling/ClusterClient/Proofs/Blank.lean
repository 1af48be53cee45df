import ClusterClient.Text.Basic
import Mathlib.Data.List.DropRight
namespace ClusterClient.Text
variable {c : Char} {cs : List Char} {s : String}

structure Trimmed (s : String) : Prop where
  first : ∀ c ∈ s.toList.head?, isBlank c = false
  last : ∀ c ∈ s.toList.getLast?, isBlank c = false

theorem trimmed_of_forall (visible : ∀ c ∈ s.toList, isBlank c = false) : Trimmed s :=
  ⟨fun c first => visible c (List.mem_of_mem_head? first),fun c last => visible c (List.mem_of_mem_getLast? last)⟩

theorem trimChars_eq (cs : List Char) : trimChars cs = (cs.dropWhile isBlank).rdropWhile isBlank := rfl

theorem trimChars_eq_nil : trimChars cs = [] ↔ ∀ c ∈ cs, isBlank c = true := by
  rw [trimChars_eq,List.rdropWhile_eq_nil_iff]
  constructor
  · intro behind c member
    rw [← List.takeWhile_append_dropWhile (p := isBlank) (l := cs)] at member
    rcases List.mem_append.mp member with front | back
    · exact List.mem_takeWhile_imp front
    · exact behind c back
  · intro blank c member
    exact blank c ((List.dropWhile_suffix isBlank).subset member)

theorem trim_eq_empty : trim s = "" ↔ allBlank s = true := by
  rw [trim,← String.ofList_nil,String.ofList_inj,trimChars_eq_nil,allBlank,List.all_eq_true]

-- What is dropped at the end leaves the first character where it was.
theorem trim_trimmed (s : String) : Trimmed (trim s) := by
  have whole : (trim s).toList = (s.toList.dropWhile isBlank).rdropWhile isBlank := String.toList_ofList
  constructor
  · intro c first
    rw [whole] at first
    obtain ⟨rest,split⟩ := List.rdropWhile_prefix isBlank (s.toList.dropWhile isBlank)
    have front : (s.toList.dropWhile isBlank).head? = some c := by
      rw [← split,List.head?_append,Option.mem_def.mp first]
      rfl
    have visible := List.head?_dropWhile_not isBlank s.toList
    rw [front] at visible
    exact visible
  · intro c last
    rw [whole] at last
    obtain ⟨listed,same⟩ := List.mem_getLast?_eq_getLast last
    have visible := List.rdropWhile_last_not isBlank (s.toList.dropWhile isBlank) listed
    rw [same]
    exact Bool.eq_false_iff.mpr visible

theorem trimChars_padded {front back : List Char} (before : ∀ c ∈ front, isBlank c = true)
    (behind : ∀ c ∈ back, isBlank c = true) : trimChars (front ++ cs ++ back) = trimChars cs := by
  rw [trimChars_eq,trimChars_eq,List.append_assoc,List.dropWhile_append_of_pos before,List.dropWhile_append]
  split
  · rename_i blank
    rw [List.isEmpty_iff.mp blank,List.dropWhile_eq_nil_iff.mpr behind]
  · rw [List.rdropWhile,List.reverse_append,List.dropWhile_append_of_pos (by simpa using behind)]
    rfl

theorem Trimmed.trim (trimmed : Trimmed s) : trim s = s := by
  have first : s.toList.dropWhile isBlank = s.toList := by
    rw [List.dropWhile_eq_self_iff]
    intro listed
    rw [trimmed.first _ (List.head?_eq_getElem? ▸ List.getElem?_eq_getElem listed)]
    exact Bool.false_ne_true
  have last : s.toList.rdropWhile isBlank = s.toList := by
    rw [List.rdropWhile_eq_self_iff]
    intro listed
    rw [trimmed.last _ (List.getLast?_eq_getLast_of_ne_nil listed)]
    exact Bool.false_ne_true
  rw [Text.trim,trimChars_eq,first,last,String.ofList_toList]

structure Stripped (s core : String) : Prop where
  trimmed : Trimmed core
  padded : ∃ front back, (∀ c ∈ front, isBlank c = true) ∧ (∀ c ∈ back, isBlank c = true) ∧
    s.toList = front ++ core.toList ++ back

theorem trim_exact {core : String} : trim s = core ↔ Stripped s core := by
  constructor
  · rintro rfl
    refine ⟨trim_trimmed s,s.toList.takeWhile isBlank,(s.toList.dropWhile isBlank).rtakeWhile isBlank,
      fun _ => List.mem_takeWhile_imp,fun _ => List.mem_rtakeWhile_imp,?_⟩
    rw [trim,String.toList_ofList,trimChars_eq,List.append_assoc,List.rdropWhile_append_rtakeWhile,
      List.takeWhile_append_dropWhile]
  · rintro ⟨trimmed,front,back,before,behind,whole⟩
    rw [trim,whole,trimChars_padded before behind]
    exact trimmed.trim

end ClusterClient.Text
