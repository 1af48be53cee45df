import ClusterClient.Proofs.Json.Reading
namespace ClusterClient.Json.Reading
open Reader

theorem spelledNumber_kind {cs rest : List Char} {v : Json} (got : spelledNumber cs = .ok (v,rest)) :
    v.kind = .number := by
  unfold spelledNumber at got
  obtain ⟨after,_,got⟩ := bind_eq_ok.mp got
  split at got
  · obtain ⟨⟨s,after⟩,_,got⟩ := bind_eq_ok.mp got
    obtain ⟨n,_,got⟩ := bind_eq_ok.mp got
    split at got
    · cases got
      rfl
    · cases got
    · cases got
    · cases got
  · obtain ⟨⟨found,after⟩,_,got⟩ := bind_eq_ok.mp got
    cases got

theorem object_kind {read : Read Json} {cs rest : List Char} {v : Json} (got : Reader.object read cs = .ok (v,rest)) :
    v.kind = .object ∨ v.kind = .number := by
  unfold Reader.object at got
  split at got
  · cases got
  · cases got
    exact Or.inl rfl
  · obtain ⟨⟨key,after⟩,_,got⟩ := bind_eq_ok.mp got
    dsimp only at got
    split at got
    · exact Or.inr (spelledNumber_kind got)
    · obtain ⟨_,_,got⟩ := bind_eq_ok.mp got
      obtain ⟨_,_,got⟩ := bind_eq_ok.mp got
      obtain ⟨_,_,got⟩ := bind_eq_ok.mp got
      cases got
      exact Or.inl rfl
  · cases got

theorem valueWith_opening {inner : Option (Read Json)} {cs rest : List Char} {v : Json}
    (got : valueWith inner cs = .ok (v,rest)) :
    ∃ c tail, skipSpaces cs = c :: tail ∧ (v.kind = .string ↔ c = '"') ∧ (v.kind = .array ↔ c = '[') := by
  unfold valueWith at got
  split at got
  · cases got
  -- A word, a signed number or a string.
  iterate 5
    · obtain ⟨_,_,got⟩ := bind_eq_ok.mp got
      cases got
      exact ⟨_,_,‹_›,by simp [kind],by simp [kind]⟩
  · split at got
    · cases got
    · obtain ⟨_,_,got⟩ := bind_eq_ok.mp got
      cases got
      exact ⟨_,_,‹_›,by simp [kind],by simp [kind]⟩
  · split at got
    · cases got
    · rcases object_kind got with object | number
      · exact ⟨_,_,‹_›,by simp [object],by simp [object]⟩
      · exact ⟨_,_,‹_›,by simp [number],by simp [number]⟩
  · split at got
    · obtain ⟨_,_,got⟩ := bind_eq_ok.mp got
      cases got
      exact ⟨_,_,‹_›,by simp_all [kind],by simp_all [kind]⟩
    · cases got

section
variable {inner : Option (Read Json)} {cs rest : List Char}

theorem valueWith_string {s : String} : valueWith inner cs = .ok (.string s,rest) ↔
    ∃ tail, skipSpaces cs = '"' :: tail ∧ Reader.string tail = .ok (s,rest) := by
  constructor
  · intro got
    obtain ⟨c,tail,opening,quote,_⟩ := valueWith_opening got
    cases quote.mp rfl
    unfold valueWith at got
    rw [opening] at got
    obtain ⟨⟨content,after⟩,read,got⟩ := bind_eq_ok.mp got
    cases got
    exact ⟨tail,opening,read⟩
  · rintro ⟨tail,opening,read⟩
    unfold valueWith
    rw [opening]
    change (Reader.string tail >>= _) = _
    rw [read]
    rfl

theorem valueWith_array {read : Read Json} {items : List Json} : valueWith (some read) cs = .ok (.array items,rest) ↔
    ∃ tail, skipSpaces cs = '[' :: tail ∧ Reader.list id read tail = .ok (items,rest) := by
  constructor
  · intro got
    obtain ⟨c,tail,opening,_,bracket⟩ := valueWith_opening got
    cases bracket.mp rfl
    unfold valueWith at got
    rw [opening] at got
    obtain ⟨⟨others,after⟩,read,got⟩ := bind_eq_ok.mp got
    cases got
    exact ⟨tail,opening,read⟩
  · rintro ⟨tail,opening,listed⟩
    unfold valueWith
    rw [opening]
    change (Reader.list id read tail >>= _) = _
    rw [listed]
    rfl

end

theorem parse_ok {source : String} {v : Json} : parse source = .ok v ↔
    ∃ rest, value maxDepth source.toList = .ok (v,rest) ∧ finish rest = .ok () := by
  unfold parse Reader.read
  constructor
  · intro got
    obtain ⟨⟨w,rest⟩,read,got⟩ := bind_eq_ok.mp got
    obtain ⟨_,finished,got⟩ := bind_eq_ok.mp got
    cases got
    exact ⟨rest,read,finished⟩
  · rintro ⟨rest,read,finished⟩
    rw [read,ok_bind]
    dsimp only
    rw [finished]
    rfl

theorem parse_array {source : String} {items : List Json} : parse source = .ok (.array items) ↔
    ∃ tail rest, skipSpaces source.toList = '[' :: tail ∧ Reader.list id (value 126) tail = .ok (items,rest) ∧
      finish rest = .ok () := by
  rw [parse_ok]
  constructor
  · rintro ⟨rest,read,finished⟩
    obtain ⟨tail,opening,listed⟩ := valueWith_array.mp read
    exact ⟨tail,rest,opening,listed,finished⟩
  · rintro ⟨tail,rest,opening,listed,finished⟩
    exact ⟨rest,valueWith_array.mpr ⟨tail,opening,listed⟩,finished⟩

theorem mem_of_parse_string {source s : String} (parsed : parse source = .ok (.string s)) : '"' ∈ source.toList := by
  obtain ⟨rest,read,_⟩ := parse_ok.mp parsed
  obtain ⟨tail,opening,_⟩ := valueWith_string.mp read
  have kept : '"' ∈ skipSpaces source.toList := by
    rw [opening]
    exact List.mem_cons_self
  exact (List.dropWhile_suffix _).subset kept

section
variable {ε α : Type} {lift : Fault → ε} {read : List Char → Except ε (α × List Char)} {cs rest : List Char}

theorem elements_ok {turns : Nat} {xs : List α} : elements lift read (turns + 1) cs = .ok (xs,rest) ↔
    ∃ x mid, read cs = .ok (x,mid) ∧
      ((skipSpaces mid = ']' :: rest ∧ xs = [x]) ∨
        ∃ after c tail others, skipSpaces mid = ',' :: after ∧ skipSpaces after = c :: tail ∧ c ≠ ']' ∧
          elements lift read turns (c :: tail) = .ok (others,rest) ∧ xs = x :: others) := by
  constructor
  · intro got
    rw [elements] at got
    obtain ⟨⟨x,mid⟩,first,got⟩ := bind_eq_ok.mp got
    refine ⟨x,mid,first,?_⟩
    dsimp only at got
    split at got
    · cases got
    · rename_i close
      cases got
      exact Or.inl ⟨close,rfl⟩
    · rename_i after comma
      split at got
      · cases got
      · cases got
      · rename_i some_left other
        obtain ⟨⟨others,last⟩,later,got⟩ := bind_eq_ok.mp got
        cases got
        obtain ⟨c,tail,next⟩ := List.exists_cons_of_ne_nil some_left
        refine Or.inr ⟨after,c,tail,others,comma,next,?_,next ▸ later,rfl⟩
        rintro rfl
        exact other tail next
    · cases got
  · rintro ⟨x,mid,first,⟨close,rfl⟩ | ⟨after,c,tail,others,comma,next,other,later,rfl⟩⟩
    · exact elements_close lift turns first close
    · rw [elements_comma lift turns first comma next other,later]
      rfl

theorem list_ok {xs : List α} : Reader.list lift read cs = .ok (xs,rest) ↔
    (skipSpaces cs = ']' :: rest ∧ xs = []) ∨
      ∃ c tail, skipSpaces cs = c :: tail ∧ c ≠ ']' ∧
        elements lift read (tail.length + 2) (c :: tail) = .ok (xs,rest) := by
  rw [Reader.list]
  cases left : skipSpaces cs with
  | nil => simp
  | cons c tail =>
    by_cases close : c = ']'
    · subst close
      simp [and_comm,eq_comm]
    · simp [close]

end

-- A reader of elements that agrees with another one up to what it makes of them makes the same of lists.
section
variable {ε δ α β : Type} {lift : Fault → ε} {liftOther : Fault → δ} {R : α → β → Prop}
  {read : List Char → Except ε (α × List Char)} {other : List Char → Except δ (β × List Char)}

theorem elements_related (same : ∀ cs y rest, other cs = .ok (y,rest) ↔ ∃ x, read cs = .ok (x,rest) ∧ R x y)
    {turns : Nat} {cs rest : List Char} {ys : List β} :
    elements liftOther other turns cs = .ok (ys,rest) ↔
      ∃ xs, elements lift read turns cs = .ok (xs,rest) ∧ List.Forall₂ R xs ys := by
  -- By the turns: both readers leave the same characters behind each element, so they go on alike.
  induction turns generalizing cs ys with
  | zero => simp [elements]
  | succ turns ih =>
    constructor
    · intro got
      obtain ⟨y,mid,first,ends⟩ := elements_ok.mp got
      obtain ⟨x,first,related⟩ := (same _ _ _).mp first
      rcases ends with ⟨close,rfl⟩ | ⟨after,c,tail,others,comma,next,going,later,rfl⟩
      · exact ⟨[x],elements_ok.mpr ⟨x,mid,first,Or.inl ⟨close,rfl⟩⟩,.cons related .nil⟩
      · obtain ⟨xs,later,matching⟩ := ih.mp later
        refine ⟨x :: xs,elements_ok.mpr ⟨x,mid,first,Or.inr ?_⟩,.cons related matching⟩
        exact ⟨after,c,tail,xs,comma,next,going,later,rfl⟩
    · rintro ⟨xs,got,matching⟩
      obtain ⟨x,mid,first,ends⟩ := elements_ok.mp got
      rcases ends with ⟨close,rfl⟩ | ⟨after,c,tail,others,comma,next,going,later,rfl⟩
      · cases matching with
        | cons related none =>
          cases none
          exact elements_ok.mpr ⟨_,mid,(same _ _ _).mpr ⟨x,first,related⟩,Or.inl ⟨close,rfl⟩⟩
      · cases matching with
        | cons related matching =>
          refine elements_ok.mpr ⟨_,mid,(same _ _ _).mpr ⟨x,first,related⟩,Or.inr ?_⟩
          exact ⟨after,c,tail,_,comma,next,going,ih.mpr ⟨others,later,matching⟩,rfl⟩

theorem list_related (same : ∀ cs y rest, other cs = .ok (y,rest) ↔ ∃ x, read cs = .ok (x,rest) ∧ R x y)
    {cs rest : List Char} {ys : List β} :
    Reader.list liftOther other cs = .ok (ys,rest) ↔
      ∃ xs, Reader.list lift read cs = .ok (xs,rest) ∧ List.Forall₂ R xs ys := by
  constructor
  · intro got
    rcases list_ok.mp got with ⟨close,rfl⟩ | ⟨c,tail,opening,going,listed⟩
    · exact ⟨[],list_ok.mpr (Or.inl ⟨close,rfl⟩),.nil⟩
    · obtain ⟨xs,listed,matching⟩ := (elements_related same).mp listed
      exact ⟨xs,list_ok.mpr (Or.inr ⟨c,tail,opening,going,listed⟩),matching⟩
  · rintro ⟨xs,got,matching⟩
    rcases list_ok.mp got with ⟨close,rfl⟩ | ⟨c,tail,opening,going,listed⟩
    · cases matching
      exact list_ok.mpr (Or.inl ⟨close,rfl⟩)
    · exact list_ok.mpr (Or.inr ⟨c,tail,opening,going,(elements_related same).mpr ⟨xs,listed,matching⟩⟩)

end

end ClusterClient.Json.Reading
