import ClusterClient.Proofs.Decimal
import ClusterClient.Proofs.Json.Grammar
namespace ClusterClient

@[simp] theorem ok_bind {ε α β : Type} (x : α) (f : α → Except ε β) : (Except.ok x >>= f) = f x := rfl

theorem bind_eq_ok {ε α β : Type} {x : Except ε α} {f : α → Except ε β} {b : β} :
    (x >>= f) = .ok b ↔ ∃ a, x = .ok a ∧ f a = .ok b := by
  cases x with
  | error failure => simp [bind,Except.bind]
  | ok a => simp

namespace Json.Reading
open Decimal (Digits digit?)
open Grammar Reader

def Stops (rest : List Char) : Prop :=
  ∀ c ∈ rest.head?, digit? c = none ∧ c ≠ '.' ∧ c ≠ 'e' ∧ c ≠ 'E'

theorem stops_nil : Stops [] := by
  intro c head
  cases head

theorem stops_cons {c : Char} (ends : digit? c = none ∧ c ≠ '.' ∧ c ≠ 'e' ∧ c ≠ 'E') (rest : List Char) :
    Stops (c :: rest) := by
  intro d head
  cases Option.some.inj head
  exact ends

theorem stops_blank {blanks rest : List Char} (blank : Blank blanks) (ends : Stops rest) :
    Stops (blanks ++ rest) := by
  cases blanks with
  | nil => exact ends
  | cons c others =>
    refine stops_cons ?_ _
    have space := blank c List.mem_cons_self
    simp only [isSpace,Bool.or_eq_true,beq_iff_eq] at space
    rcases space with ((rfl | rfl) | rfl) | rfl <;> decide

theorem skipSpaces_blank {blanks : List Char} (blank : Blank blanks) (rest : List Char) :
    skipSpaces (blanks ++ rest) = skipSpaces rest :=
  List.dropWhile_append_of_pos blank

theorem skipSpaces_cons {c : Char} (solid : isSpace c = false) (rest : List Char) :
    skipSpaces (c :: rest) = c :: rest := by
  rw [skipSpaces,List.dropWhile_cons_of_neg (by simp [solid])]

theorem wholePart_spelled (spelled : WholeSpelled whole ws) {rest : List Char}
    (ends : ∀ c ∈ rest.head?, digit? c = none) : wholePart (ws ++ rest) = .ok (whole,rest) := by
  cases spelled with
  | zero =>
    have run := Decimal.span_chars [] ends
    simp only [Decimal.chars,List.map_nil,List.nil_append] at run
    rw [List.singleton_append,wholePart]
    simp [show digit? '0' = some 0 from by decide,run]
  | digits d more nonzero =>
    have run := Decimal.span_chars more ends
    rw [Decimal.chars,List.map_cons,List.cons_append,wholePart,Decimal.digit?_digitChar]
    rw [Decimal.chars] at run
    have positive : ¬d.val = 0 := fun zero => nonzero (Fin.ext zero)
    simp [run,positive]

theorem fractionPart_spelled (spelled : FractionSpelled fraction fs) {rest : List Char}
    (ends : ∀ c ∈ rest.head?, digit? c = none ∧ c ≠ '.') :
    fractionPart (fs ++ rest) = .ok (fraction,rest) := by
  cases spelled with
  | none =>
    unfold fractionPart
    split
    · rename_i point
      exact absurd rfl (ends '.' (by rw [show rest = _ from point]; rfl)).2
    · rfl
  | some d more =>
    have run := Decimal.span_chars (d :: more) (fun c head => (ends c head).1)
    rw [List.cons_append,fractionPart,run]

theorem exponentDigits_spelled (negative : Bool) (d : Fin 10) (more : Digits) {rest : List Char}
    (ends : ∀ c ∈ rest.head?, digit? c = none) :
    exponentDigits negative (Decimal.chars (d :: more) ++ rest) = .ok (some ⟨negative,d :: more⟩,rest) := by
  have run := Decimal.span_chars more ends
  rw [Decimal.chars] at run
  rw [Decimal.chars,List.map_cons,List.cons_append,exponentDigits,Decimal.digit?_digitChar]
  simp [run]

theorem exponentSign_digits (d : Fin 10) (more : Digits) {rest : List Char}
    (ends : ∀ c ∈ rest.head?, digit? c = none) :
    exponentSign (Decimal.chars (d :: more) ++ rest) = .ok (some ⟨false,d :: more⟩,rest) := by
  rw [← exponentDigits_spelled false d more ends]
  unfold exponentSign
  have plain : ∀ e : Fin 10, Decimal.digitChar e ≠ '+' ∧ Decimal.digitChar e ≠ '-' := by decide
  split
  · rename_i plus
    exact absurd (List.cons.inj plus).1 (plain d).1
  · rename_i minus
    exact absurd (List.cons.inj minus).1 (plain d).2
  · rfl

theorem exponentPart_spelled (spelled : ExponentSpelled exponent es) {rest : List Char}
    (ends : Stops rest) : exponentPart (es ++ rest) = .ok (exponent,rest) := by
  have digitless : ∀ c ∈ rest.head?, digit? c = none := fun c head => (ends c head).1
  cases spelled with
  | none =>
    unfold exponentPart
    split
    · rename_i letter
      exact absurd rfl (ends 'e' (by rw [show rest = _ from letter]; rfl)).2.2.1
    · rename_i letter
      exact absurd rfl (ends 'E' (by rw [show rest = _ from letter]; rfl)).2.2.2
    · rfl
  | unsigned d more letter =>
    rcases letter with rfl | rfl <;> exact exponentSign_digits d more digitless
  | signed negative d more letter =>
    rcases letter with rfl | rfl <;> cases negative <;> exact exponentDigits_spelled _ d more digitless

theorem exponent_head (spelled : ExponentSpelled exponent es) {rest : List Char} (ends : Stops rest) :
    ∀ c ∈ (es ++ rest).head?, digit? c = none ∧ c ≠ '.' := by
  intro c head
  cases spelled with
  | none => exact ⟨(ends c head).1,(ends c head).2.1⟩
  | unsigned d more letter =>
    cases Option.some.inj head
    rcases letter with rfl | rfl <;> decide
  | signed negative d more letter =>
    cases Option.some.inj head
    rcases letter with rfl | rfl <;> decide

theorem fraction_head (spelled : FractionSpelled fraction fs) {rest : List Char}
    (ends : ∀ c ∈ rest.head?, digit? c = none ∧ c ≠ '.') : ∀ c ∈ (fs ++ rest).head?, digit? c = none := by
  intro c head
  cases spelled with
  | none => exact (ends c head).1
  | some d more =>
    cases Option.some.inj head
    decide

theorem number_parts (negative : Bool) (whole : WholeSpelled w ws) (fraction : FractionSpelled f fs)
    (exponent : ExponentSpelled e es) {rest : List Char} (ends : Stops rest) :
    Reader.number negative (ws ++ (fs ++ (es ++ rest))) = .ok (⟨negative,w,f,e⟩,rest) := by
  have afterFraction := exponent_head exponent ends
  unfold Reader.number
  rw [wholePart_spelled whole (fraction_head fraction afterFraction),ok_bind]
  dsimp only
  rw [fractionPart_spelled fraction afterFraction,ok_bind]
  dsimp only
  rw [exponentPart_spelled exponent ends,ok_bind]
  rfl

theorem whole_head (spelled : WholeSpelled w ws) : ∃ d tail, ws = Decimal.digitChar d :: tail := by
  cases spelled with
  | zero => exact ⟨0,[],rfl⟩
  | digits d more => exact ⟨d,_,rfl⟩

theorem fourHex_spelled (spelled : FourHex n cs) (rest : List Char) : fourHex (cs ++ rest) = .ok (n,rest) := by
  cases spelled with
  | digits first second third fourth =>
    simp only [List.cons_append,List.nil_append,fourHex,first,second,third,fourth]

theorem escape_short (listed : (letter,c) ∈ shortEscapes) (rest : List Char) :
    escape (letter :: rest) = .ok (c,rest) := by
  simp only [shortEscapes,List.mem_cons,Prod.mk.injEq,List.not_mem_nil,or_false] at listed
  rcases listed with ⟨rfl,rfl⟩ | ⟨rfl,rfl⟩ | ⟨rfl,rfl⟩ | ⟨rfl,rfl⟩ | ⟨rfl,rfl⟩ | ⟨rfl,rfl⟩ | ⟨rfl,rfl⟩ | ⟨rfl,rfl⟩ <;> rfl

theorem escape_code (spelled : FourHex n cs) (notLow : isLowSurrogate n = false)
    (notHigh : isHighSurrogate n = false) (rest : List Char) :
    escape ('u' :: (cs ++ rest)) = .ok (Char.ofNat n,rest) := by
  change unicodeEscape (cs ++ rest) = _
  unfold unicodeEscape
  rw [fourHex_spelled spelled,ok_bind]
  dsimp only
  rw [if_neg (by simp [notLow]),if_neg (by simp [notHigh])]
  rfl

theorem not_low_of_high (high : isHighSurrogate n = true) : isLowSurrogate n = false := by
  simp only [isHighSurrogate,isLowSurrogate,Bool.and_eq_true,decide_eq_true_eq] at high ⊢
  simp only [Bool.and_eq_false_iff,decide_eq_false_iff_not]
  omega

theorem escape_pair (first : FourHex high cs) (second : FourHex low ds) (isHigh : isHighSurrogate high = true)
    (isLow : isLowSurrogate low = true) (rest : List Char) :
    escape ('u' :: (cs ++ '\\' :: 'u' :: (ds ++ rest))) =
      .ok (Char.ofNat (0x10000 + (high - 0xD800) * 0x400 + (low - 0xDC00)),rest) := by
  change unicodeEscape (cs ++ '\\' :: 'u' :: (ds ++ rest)) = _
  unfold unicodeEscape
  rw [fourHex_spelled first,ok_bind]
  dsimp only
  rw [if_neg (by simp [not_low_of_high isHigh]),if_pos isHigh,lowHalf,fourHex_spelled second,ok_bind]
  dsimp only
  rw [if_pos isLow]
  rfl

theorem stringTail_escape {cs after rest content : List Char} {turns : Nat}
    (escaped : escape cs = .ok (c,after)) (tail : stringTail turns after = .ok (content,rest)) :
    stringTail (turns + 1) ('\\' :: cs) = .ok (c :: content,rest) := by
  rw [stringTail,escaped,ok_bind]
  dsimp only
  rw [tail]
  rfl

-- One turn for each character and one for the closing quote are enough.
theorem stringTail_spelled (spelled : ContentSpelled content cs) {turns : Nat}
    (enough : content.length < turns) (rest : List Char) :
    stringTail turns (cs ++ '"' :: rest) = .ok (content,rest) := by
  induction spelled generalizing turns with
  | nil =>
    cases turns with
    | zero => cases enough
    | succ turns => rfl
  | @cons c cs content ds first _ ih =>
    cases turns with
    | zero => cases enough
    | succ turns =>
      have tail := ih (Nat.lt_of_succ_lt_succ enough)
      rw [List.append_assoc]
      cases first with
      | plain c visible unquoted unescaped =>
        rw [List.singleton_append,stringTail]
        · rw [if_neg (Nat.not_lt.mpr visible),tail]
          rfl
        · exact unquoted
        · exact unescaped
      | short listed =>
        simp only [List.cons_append,List.nil_append]
        exact stringTail_escape (escape_short listed _) tail
      | code digits notLow notHigh =>
        simp only [List.cons_append]
        exact stringTail_escape (escape_code digits notLow notHigh _) tail
      | pair first second isHigh isLow =>
        simp only [List.cons_append,List.append_assoc]
        exact stringTail_escape (escape_pair first second isHigh isLow _) tail

theorem content_length (spelled : ContentSpelled content cs) : content.length ≤ cs.length := by
  induction spelled with
  | nil => exact Nat.le_refl _
  | @cons c cs content ds first _ ih =>
    have positive : 0 < cs.length := by
      cases first <;> exact Nat.succ_pos _
    rw [List.length_cons,List.length_append]
    omega

theorem string_spelled {s : String} (spelled : ContentSpelled s.toList cs) (rest : List Char) :
    Reader.string (cs ++ '"' :: rest) = .ok (s,rest) := by
  have size := content_length spelled
  unfold Reader.string
  rw [stringTail_spelled spelled (by rw [List.length_append]; omega),ok_bind]
  dsimp only
  rw [String.ofList_toList]
  rfl

def Reads {ε α : Type} (spelled : Json → List Char → Prop) (result : Json → α)
    (read : List Char → Except ε (α × List Char)) : Prop :=
  ∀ v cs, spelled v cs → ∀ front rest, Blank front → Stops rest →
    read (front ++ (cs ++ rest)) = .ok (result v,rest)

def Opens (spelled : Json → List Char → Prop) : Prop :=
  ∀ v cs, spelled v cs → ∃ c tail, cs = c :: tail ∧ isSpace c = false ∧ c ≠ ']'

theorem valueWith_digit (inner : Option (Read Json)) (tail : List Char) : ∀ d : Fin 10,
    valueWith inner (Decimal.digitChar d :: tail) = (do
      let (n,rest) ← Reader.number false (Decimal.digitChar d :: tail)
      return (.number n,rest))
  | 0 | 1 | 2 | 3 | 4 | 5 | 6 | 7 | 8 | 9 => rfl

theorem valueWith_blank (inner : Option (Read Json)) {front : List Char} (blank : Blank front)
    (rest : List Char) : valueWith inner (front ++ rest) = valueWith inner rest := by
  unfold valueWith
  rw [skipSpaces_blank blank]

theorem leaf_reads (inner : Option (Read Json)) : Reads LeafSpelled settled (valueWith inner) := by
  intro v cs spelled front rest blank ends
  rw [valueWith_blank inner blank,settled_leaf spelled]
  cases spelled with
  | null => rfl
  | true => rfl
  | false => rfl
  | number spelled =>
    cases spelled with
    | parts negative whole fraction exponent =>
      simp only [List.append_assoc]
      cases negative with
      | true =>
        simp only [sign,if_true,List.cons_append,List.nil_append]
        change (Reader.number Bool.true _ >>= _) = _
        rw [number_parts _ whole fraction exponent ends]
        rfl
      | false =>
        have read := number_parts Bool.false whole fraction exponent ends
        -- Without a sign the reader has to see a digit before it looks for a number.
        obtain ⟨d,tail,rfl⟩ := whole_head whole
        simp only [sign,Bool.false_eq_true,if_false,List.nil_append,List.cons_append] at read ⊢
        rw [valueWith_digit,read]
        rfl
  | string spelled =>
    cases spelled with
    | quoted content =>
      rw [List.cons_append,List.append_assoc]
      change (Reader.string _ >>= _) = _
      rw [List.singleton_append,string_spelled content]
      rfl

theorem leaf_opens : Opens LeafSpelled := by
  intro v cs spelled
  cases spelled with
  | null => exact ⟨_,_,rfl,by decide,by decide⟩
  | true => exact ⟨_,_,rfl,by decide,by decide⟩
  | false => exact ⟨_,_,rfl,by decide,by decide⟩
  | number spelled =>
    cases spelled with
    | parts negative whole fraction exponent =>
      obtain ⟨d,tail,rfl⟩ := whole_head whole
      have plain : ∀ e : Fin 10, isSpace (Decimal.digitChar e) = Bool.false ∧ Decimal.digitChar e ≠ ']' := by
        decide
      cases negative with
      | true => exact ⟨_,_,rfl,by decide,by decide⟩
      | false => exact ⟨_,_,rfl,(plain d).1,(plain d).2⟩
  | string spelled =>
    cases spelled with
    | quoted content => exact ⟨_,_,rfl,by decide,by decide⟩

theorem value_opens (inner : Json → List Char → Prop) : Opens (ValueSpelled inner) := by
  intro v cs spelled
  cases spelled with
  | leaf spelled => exact leaf_opens _ _ spelled
  | emptyArray => exact ⟨_,_,rfl,by decide,by decide⟩
  | array => exact ⟨_,_,rfl,by decide,by decide⟩
  | emptyObject => exact ⟨_,_,rfl,by decide,by decide⟩
  | object => exact ⟨_,_,rfl,by decide,by decide⟩

theorem spelled_opens : ∀ depth, Opens (Spelled depth)
  | 0 => leaf_opens
  | _ + 1 => value_opens _

theorem followed_stops {α : Type} {piece : α → List Char → Prop} {xs : List α}
    (spelled : Followed piece xs ds) {c : Char}
    (ends : digit? c = none ∧ c ≠ '.' ∧ c ≠ 'e' ∧ c ≠ 'E') (rest : List Char) : Stops (ds ++ c :: rest) := by
  cases spelled with
  | nothing => exact stops_cons ends rest
  | comma => exact stops_cons (by decide) _

theorem followed_length {α : Type} {piece : α → List Char → Prop} {xs : List α}
    (spelled : Followed piece xs ds) :
    xs.length ≤ ds.length := by
  induction spelled with
  | nothing => exact Nat.le_refl _
  | comma _ _ ih =>
    simp only [List.length_cons,List.length_append]
    omega

section
variable {ε α : Type} {inner : Json → List Char → Prop} {result : Json → α}
  {read : List Char → Except ε (α × List Char)}

-- The blanks after an item are left, those before it may be gone already.
theorem item_reads (reads : Reads inner result read) (spelled : ItemSpelled inner v cs) {rest : List Char}
    (ends : Stops rest) : ∃ back, Blank back ∧ read (cs ++ rest) = .ok (result v,back ++ rest) := by
  cases spelled with
  | item front core back =>
    refine ⟨_,back,?_⟩
    rw [List.append_assoc,List.append_assoc]
    exact reads _ _ core _ _ front (stops_blank back ends)

theorem item_skipped (opens : Opens inner) (spelled : ItemSpelled inner v cs) :
    ∃ c tail, (∀ rest, skipSpaces (cs ++ rest) = c :: (tail ++ rest)) ∧ c ≠ ']' ∧
      ItemSpelled inner v (c :: tail) := by
  cases spelled with
  | @item front v core back blankFront spelledCore blankBack =>
    obtain ⟨c,tail,same,solid,other⟩ := opens _ _ spelledCore
    refine ⟨c,tail ++ back,?_,other,?_⟩
    · intro rest
      rw [List.append_assoc,skipSpaces_blank blankFront,same,List.append_assoc,List.cons_append,
        skipSpaces_cons solid]
      simp
    · rw [← List.cons_append,← same]
      exact .item blank_nil spelledCore blankBack

theorem elements_close (lift : Fault → ε) {x : α} {mid rest : List Char} (turns : Nat)
    (got : read cs = .ok (x,mid)) (close : skipSpaces mid = ']' :: rest) :
    elements lift read (turns + 1) cs = .ok ([x],rest) := by
  rw [elements,got,ok_bind]
  dsimp only
  rw [close]
  rfl

theorem elements_comma (lift : Fault → ε) {x : α} {mid after : List Char} (turns : Nat)
    (got : read cs = .ok (x,mid)) (comma : skipSpaces mid = ',' :: after)
    (next : skipSpaces after = c :: tail) (other : c ≠ ']') :
    elements lift read (turns + 1) cs = (do
      let (xs,rest) ← elements lift read turns (c :: tail)
      return (x :: xs,rest)) := by
  rw [elements,got,ok_bind]
  dsimp only
  rw [comma]
  simp only [next]
  split
  · rename_i empty
    cases empty
  · rename_i ended
    exact absurd (List.cons.inj ended).1 other
  · rfl

theorem elements_spelled (lift : Fault → ε) (reads : Reads inner result read) (opens : Opens inner)
    (others : Followed (ItemSpelled inner) items ds) (first : ItemSpelled inner v cs) {turns : Nat}
    (enough : items.length < turns) (rest : List Char) :
    elements lift read turns (cs ++ (ds ++ ']' :: rest)) = .ok (result v :: items.map result,rest) := by
  induction others generalizing v cs turns with
  | nothing =>
    cases turns with
    | zero => cases enough
    | succ turns =>
      obtain ⟨back,blank,got⟩ := item_reads reads first (stops_cons (c := ']') (by decide) rest)
      refine elements_close lift turns got ?_
      rw [skipSpaces_blank blank,skipSpaces_cons (by decide)]
  | @comma w es items ds next others ih =>
    cases turns with
    | zero => cases enough
    | succ turns =>
      obtain ⟨back,blank,got⟩ := item_reads reads first (stops_cons (c := ',') (by decide) (es ++ (ds ++ ']' :: rest)))
      obtain ⟨c,tail,skipped,other,spelled⟩ := item_skipped opens next
      have comma : skipSpaces (back ++ ',' :: (es ++ (ds ++ ']' :: rest))) = ',' :: (es ++ (ds ++ ']' :: rest)) := by
        rw [skipSpaces_blank blank,skipSpaces_cons (by decide)]
      rw [List.cons_append,List.append_assoc,elements_comma lift turns got comma (skipped _) other,
        ← List.cons_append,ih spelled (Nat.lt_of_succ_lt_succ enough)]
      rfl

theorem list_spelled (lift : Fault → ε) (reads : Reads inner result read) (opens : Opens inner)
    (first : ItemSpelled inner v cs) (others : Followed (ItemSpelled inner) items ds) (rest : List Char) :
    Reader.list lift read (cs ++ (ds ++ ']' :: rest)) = .ok (result v :: items.map result,rest) := by
  obtain ⟨c,tail,skipped,other,spelled⟩ := item_skipped opens first
  have size := followed_length others
  rw [Reader.list,skipped]
  split
  · rename_i empty
    cases empty
  · rename_i ended
    exact absurd (List.cons.inj ended).1 other
  · rw [← List.cons_append]
    refine elements_spelled lift reads opens others spelled ?_ rest
    simp only [List.length_append,List.length_cons]
    omega

end

section
variable {inner : Json → List Char → Prop} {read : Read Json}

theorem colon_spelled {back : List Char} (blank : Blank back) (rest : List Char) :
    colon (back ++ ':' :: rest) = .ok rest := by
  unfold colon
  rw [skipSpaces_blank blank,skipSpaces_cons (by decide)]
  rfl

theorem member_steps (reads : Reads inner settled read) (spelled : MemberSpelled inner (key,v) cs)
    {rest : List Char} (ends : Stops rest) :
    ∃ text afterKey afterColon back, skipSpaces (cs ++ rest) = '"' :: text ∧
      Reader.string text = .ok (key,afterKey) ∧ colon afterKey = .ok afterColon ∧ Blank back ∧
      read afterColon = .ok (settled v,back ++ rest) := by
  cases spelled with
  | @member front key ks blanks v cs frontBlank keySpelled blank item =>
    cases keySpelled with
    | @quoted content _ spelled =>
      obtain ⟨back,backBlank,got⟩ := item_reads reads item ends
      refine ⟨content ++ '"' :: (blanks ++ ':' :: (cs ++ rest)),_,_,back,?_,string_spelled spelled _,
        colon_spelled blank _,backBlank,got⟩
      simp only [List.append_assoc,List.cons_append,List.nil_append]
      rw [skipSpaces_blank frontBlank,skipSpaces_cons (by decide)]

theorem member_spelled {text afterKey afterColon rest : List Char} {back : List Char}
    (keyRead : Reader.string text = .ok (key,afterKey)) (colonRead : colon afterKey = .ok afterColon)
    (valueRead : read afterColon = .ok (v,back ++ rest)) :
    member read text = .ok ((key,v),back ++ rest) := by
  unfold member
  rw [keyRead,ok_bind]
  dsimp only
  rw [colonRead,ok_bind,valueRead,ok_bind]
  rfl

theorem moreMembers_spelled (reads : Reads inner settled read)
    (others : Followed (MemberSpelled inner) members ds) {back : List Char} (blank : Blank back)
    {turns : Nat} (enough : members.length < turns) (rest : List Char) :
    moreMembers read turns (back ++ (ds ++ '\x7d' :: rest)) = .ok (settledMembers members,rest) := by
  induction others generalizing back turns with
  | nothing =>
    cases turns with
    | zero => cases enough
    | succ turns =>
      rw [List.nil_append,moreMembers,skipSpaces_blank blank,skipSpaces_cons (by decide)]
      rfl
  | @comma pair es members ds next others ih =>
    cases turns with
    | zero => cases enough
    | succ turns =>
      obtain ⟨key,v⟩ := pair
      -- What follows this member begins with a comma or the closing brace, either of which ends a
      -- number.
      obtain ⟨text,afterKey,afterColon,blanks,skipped,keyRead,colonRead,blank',valueRead⟩ :=
        member_steps reads next (followed_stops others (c := '\x7d') (by decide) rest)
      have tailRead := ih blank' (Nat.lt_of_succ_lt_succ enough)
      rw [List.cons_append,List.append_assoc,moreMembers,skipSpaces_blank blank,
        skipSpaces_cons (by decide)]
      simp only [skipped]
      rw [member_spelled keyRead colonRead valueRead,ok_bind]
      dsimp only
      rw [tailRead]
      rfl

theorem object_spelled (reads : Reads inner settled read) (plain : key ≠ numberKey)
    (first : MemberSpelled inner (key,v) cs) (others : Followed (MemberSpelled inner) members ds)
    (rest : List Char) :
    Reader.object read (cs ++ (ds ++ '\x7d' :: rest)) =
      .ok (.object (Members.ofList (settledMembers ((key,v) :: members))),rest) := by
  obtain ⟨text,afterKey,afterColon,back,skipped,keyRead,colonRead,blank,valueRead⟩ :=
    member_steps reads first (followed_stops others (c := '\x7d') (by decide) rest)
  have size := followed_length others
  have enough : members.length < (back ++ (ds ++ '\x7d' :: rest)).length + 1 := by
    simp only [List.length_append]
    omega
  have tailRead := moreMembers_spelled reads others blank enough rest
  unfold Reader.object
  simp only [skipped]
  rw [keyRead,ok_bind]
  dsimp only
  rw [if_neg plain,colonRead,ok_bind,valueRead,ok_bind]
  dsimp only
  rw [tailRead]
  rfl

theorem value_reads (reads : Reads inner settled read) (opens : Opens inner) :
    Reads (ValueSpelled inner) settled (valueWith (some read)) := by
  intro v cs spelled front rest blank ends
  cases spelled with
  | leaf spelled => exact leaf_reads (some read) v cs spelled front rest blank ends
  | emptyArray inside =>
    rw [valueWith_blank _ blank,List.cons_append,List.append_assoc]
    change (Reader.list id read _ >>= _) = _
    rw [Reader.list,skipSpaces_blank inside,List.singleton_append,skipSpaces_cons (by decide)]
    rfl
  | array first others =>
    rw [valueWith_blank _ blank,List.cons_append,List.append_assoc,List.append_assoc]
    change (Reader.list id read _ >>= _) = _
    rw [List.singleton_append,list_spelled id reads opens first others,ok_bind,settled,settledItems_eq_map]
    rfl
  | emptyObject inside =>
    rw [valueWith_blank _ blank,List.cons_append,List.append_assoc]
    change Reader.object read _ = _
    unfold Reader.object
    rw [skipSpaces_blank inside,List.singleton_append,skipSpaces_cons (by decide)]
    rfl
  | object plain first others =>
    rw [valueWith_blank _ blank,List.cons_append,List.append_assoc,List.append_assoc]
    change Reader.object read _ = _
    rw [List.singleton_append,object_spelled reads plain first others,settled]

end

theorem spelled_reads : ∀ depth, Reads (Spelled depth) settled (value depth)
  | 0 => leaf_reads none
  | depth + 1 => value_reads (spelled_reads depth) (spelled_opens depth)

-- Whatever spells a value is parsed as what it stands for.
theorem parse_spelled {v : Json} {source : String} (spelled : TextSpelled v source) :
    parse source = .ok (settled v) := by
  obtain ⟨back,blank,got⟩ := item_reads (spelled_reads maxDepth) spelled stops_nil
  rw [List.append_nil,List.append_nil] at got
  have done : skipSpaces back = [] := by
    have skipped := skipSpaces_blank blank []
    rwa [List.append_nil] at skipped
  unfold parse Reader.read
  rw [got,ok_bind]
  dsimp only
  unfold finish
  rw [done]
  rfl

end Json.Reading
end ClusterClient
