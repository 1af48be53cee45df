import ClusterClient.Text.Basic
import Mathlib.Data.List.Basic
import Mathlib.Data.List.TakeWhile
namespace ClusterClient.Text
variable {separator : Char}

theorem split_ne_nil (separator : Char) (cs : List Char) : split separator cs ≠ [] := by
  cases cs with
  | nil => exact List.cons_ne_nil _ _
  | cons c rest =>
    rw [split]
    split
    · exact List.cons_ne_nil _ _
    · split <;> exact List.cons_ne_nil _ _

theorem split_other {c : Char} (other : c ≠ separator) (cs : List Char) :
    ∃ piece pieces, split separator cs = piece :: pieces ∧ split separator (c :: cs) = (c :: piece) :: pieces := by
  obtain ⟨piece,pieces,same⟩ := List.exists_cons_of_ne_nil (split_ne_nil separator cs)
  refine ⟨piece,pieces,same,?_⟩
  rw [split,if_neg other,same]

theorem split_of_not_mem {piece : List Char} (free : separator ∉ piece) : split separator piece = [piece] := by
  induction piece with
  | nil => rfl
  | cons c rest ih =>
    obtain ⟨other,later⟩ := List.ne_and_not_mem_of_not_mem_cons free
    rw [split,if_neg (Ne.symm other),ih later]

theorem split_append {piece : List Char} (free : separator ∉ piece) (rest : List Char) :
    split separator (piece ++ separator :: rest) = piece :: split separator rest := by
  induction piece with
  | nil => rw [List.nil_append,split,if_pos rfl]
  | cons c more ih =>
    obtain ⟨other,later⟩ := List.ne_and_not_mem_of_not_mem_cons free
    rw [List.cons_append,split,if_neg (Ne.symm other),ih later]

theorem split_join {pieces : List (List Char)} (listed : pieces ≠ []) (free : ∀ piece ∈ pieces, separator ∉ piece) :
    split separator (join [separator] pieces) = pieces := by
  induction pieces with
  | nil => exact absurd rfl listed
  | cons piece rest ih =>
    obtain ⟨here,later⟩ := List.forall_mem_cons.mp free
    cases rest with
    | nil => exact split_of_not_mem here
    | cons next more =>
      rw [join,List.append_assoc,List.singleton_append,split_append here,ih (List.cons_ne_nil _ _) later]

theorem join_cons (between : List Char) (piece : List Char) {rest : List (List Char)} (listed : rest ≠ []) :
    join between (piece :: rest) = piece ++ between ++ join between rest := by
  cases rest with
  | nil => exact absurd rfl listed
  | cons next more => rfl

theorem join_concat (between : List Char) {pieces : List (List Char)} (listed : pieces ≠ []) (last : List Char) :
    join between (pieces ++ [last]) = join between pieces ++ between ++ last := by
  induction pieces with
  | nil => exact absurd rfl listed
  | cons piece rest ih =>
    by_cases alone : rest = []
    · subst alone
      rfl
    · rw [List.cons_append,join_cons _ _ (List.append_ne_nil_of_left_ne_nil alone _),ih alone,join_cons _ _ alone]
      simp only [List.append_assoc]

theorem join_split (separator : Char) (cs : List Char) : join [separator] (split separator cs) = cs := by
  induction cs with
  | nil => rfl
  | cons c rest ih =>
    by_cases here : c = separator
    · rw [split,if_pos here,join_cons _ _ (split_ne_nil separator rest),ih,here]
      rfl
    · obtain ⟨piece,pieces,cut,whole⟩ := split_other here rest
      rw [cut] at ih
      rw [whole,← ih]
      cases pieces <;> rfl

theorem not_mem_of_mem_split {cs piece : List Char} (member : piece ∈ split separator cs) : separator ∉ piece := by
  induction cs generalizing piece with
  | nil =>
    rw [List.mem_singleton.mp member]
    exact List.not_mem_nil
  | cons c rest ih =>
    by_cases here : c = separator
    · rw [split,if_pos here] at member
      rcases List.mem_cons.mp member with rfl | later
      · exact List.not_mem_nil
      · exact ih later
    · obtain ⟨first,pieces,cut,whole⟩ := split_other here rest
      rw [whole] at member
      rw [cut] at ih
      rcases List.mem_cons.mp member with rfl | later
      · exact List.not_mem_cons_of_ne_of_not_mem (Ne.symm here) (ih List.mem_cons_self)
      · exact ih (List.mem_cons_of_mem first later)

theorem split_exact {cs : List Char} {pieces : List (List Char)} (listed : pieces ≠ []) :
    split separator cs = pieces ↔ cs = join [separator] pieces ∧ ∀ piece ∈ pieces, separator ∉ piece := by
  constructor
  · rintro rfl
    exact ⟨(join_split separator cs).symm,fun piece => not_mem_of_mem_split⟩
  · rintro ⟨rfl,free⟩
    exact split_join listed free

theorem mem_join {pieces : List (List Char)} {between : List Char} {c : Char} (member : c ∈ join between pieces) :
    c ∈ between ∨ ∃ piece ∈ pieces, c ∈ piece := by
  induction pieces with
  | nil => cases member
  | cons piece rest ih =>
    cases rest with
    | nil => exact Or.inr ⟨piece,List.mem_cons_self,member⟩
    | cons next more =>
      rw [join,List.append_assoc,List.mem_append,List.mem_append] at member
      rcases member with here | joint | later
      · exact Or.inr ⟨piece,List.mem_cons_self,here⟩
      · exact Or.inl joint
      · exact (ih later).imp id (fun ⟨found,listed,inside⟩ => ⟨found,List.mem_cons_of_mem _ listed,inside⟩)

theorem mem_join_of_mem {pieces : List (List Char)} (between : List Char) {piece : List Char} {c : Char}
    (listed : piece ∈ pieces) (member : c ∈ piece) : c ∈ join between pieces := by
  induction pieces with
  | nil => cases listed
  | cons first rest ih =>
    cases rest with
    | nil => rwa [join,← List.mem_singleton.mp listed]
    | cons next more =>
      rw [join,List.append_assoc,List.mem_append,List.mem_append]
      rcases List.mem_cons.mp listed with rfl | later
      · exact Or.inl member
      · exact Or.inr (Or.inr (ih later))

theorem mem_of_mem_split {cs piece : List Char} {c : Char} (listed : piece ∈ split separator cs) (member : c ∈ piece) :
    c ∈ cs := by
  rw [← join_split separator cs]
  exact mem_join_of_mem [separator] listed member

theorem split_join_iff {pieces : List (List Char)} (listed : pieces ≠ []) :
    split separator (join [separator] pieces) = pieces ↔ ∀ piece ∈ pieces, separator ∉ piece := by
  rw [split_exact listed]
  exact and_iff_right rfl

theorem split_flatMap {write : Char → List Char} (same : write separator = [separator])
    (free : ∀ c, c ≠ separator → separator ∉ write c) (cs : List Char) :
    split separator (cs.flatMap write) = (split separator cs).map (·.flatMap write) := by
  induction cs with
  | nil => rfl
  | cons c rest ih =>
    rw [List.flatMap_cons]
    by_cases here : c = separator
    · subst here
      rw [same,List.singleton_append,split,if_pos rfl,split,if_pos rfl,ih]
      rfl
    · obtain ⟨piece,pieces,cut,whole⟩ := split_other here rest
      -- What is written for one character may be long, so it is taken off one by one.
      have front : ∀ front : List Char, separator ∉ front →
          split separator (front ++ rest.flatMap write) =
            (front ++ piece.flatMap write) :: pieces.map (·.flatMap write) := by
        intro front plain
        induction front with
        | nil => rw [List.nil_append,ih,cut]; rfl
        | cons d more again =>
          obtain ⟨other,later⟩ := List.ne_and_not_mem_of_not_mem_cons plain
          rw [List.cons_append,split,if_neg (Ne.symm other),again later]
          rfl
      rw [front _ (free c here),whole]
      rfl

-- What may stand behind a text that is free of the separator: nothing, or a separator first.
def Cut (separator : Char) (tail : List Char) : Prop := ∀ c ∈ tail.head?, c = separator

theorem cut_here {front tail : List Char} (free : separator ∉ front) (cut : Cut separator tail) :
    (front ++ tail).takeWhile (· != separator) = front ∧ (front ++ tail).dropWhile (· != separator) = tail := by
  have plain : ∀ c ∈ front, (c != separator) = true := by
    intro c member
    refine bne_iff_ne.mpr ?_
    rintro rfl
    exact free member
  rw [List.takeWhile_append_of_pos plain,List.dropWhile_append_of_pos plain]
  cases tail with
  | nil => simp
  | cons c rest =>
    have first : c = separator := cut c rfl
    simp [first]

theorem cut_unique {front other tail rest : List Char} (free : separator ∉ front) (freeOther : separator ∉ other)
    (cut : Cut separator tail) (cutOther : Cut separator rest) :
    front ++ tail = other ++ rest ↔ front = other ∧ tail = rest := by
  constructor
  · intro same
    obtain ⟨head,back⟩ := cut_here free cut
    obtain ⟨headOther,backOther⟩ := cut_here freeOther cutOther
    rw [same] at head back
    exact ⟨head.symm.trans headOther,back.symm.trans backOther⟩
  · rintro ⟨rfl,rfl⟩
    rfl

theorem last_cut_unique {front other tail rest : List Char} (free : separator ∉ tail) (freeOther : separator ∉ rest) :
    front ++ separator :: tail = other ++ separator :: rest ↔ front = other ∧ tail = rest := by
  have cut : ∀ front : List Char, Cut separator (separator :: front) := by simp [Cut]
  have free' : separator ∉ tail.reverse := by simpa using free
  have freeOther' : separator ∉ rest.reverse := by simpa using freeOther
  have turned := cut_unique free' freeOther' (cut front.reverse) (cut other.reverse)
  rw [← List.reverse_inj]
  simpa [and_comm] using turned

end ClusterClient.Text
