import ClusterClient.Proofs.Json.Members
import ClusterClient.Proofs.Json.Reading
import Mathlib.Tactic.SplitIfs
namespace ClusterClient.Json.Printing
open Grammar

theorem hexValue?_lowHexDigit {n : Nat} (small : n < 16) : Percent.hexValue? (lowHexDigit n) = some n := by
  have all : ∀ k : Fin 16, Percent.hexValue? (lowHexDigit k.val) = some k.val := by decide
  exact all ⟨n,small⟩

theorem escapeChar_spelled (c : Char) : CharSpelled c (escapeChar c) := by
  unfold escapeChar
  split_ifs with quote backslash backspace formFeed lineFeed carriageReturn tab low
  · exact .short (by simp [shortEscapes,quote])
  · exact .short (by simp [shortEscapes,backslash])
  · exact .short (by simp [shortEscapes,backspace])
  · exact .short (by simp [shortEscapes,formFeed])
  · exact .short (by simp [shortEscapes,lineFeed])
  · exact .short (by simp [shortEscapes,carriageReturn])
  · exact .short (by simp [shortEscapes,tab])
  · have digits := FourHex.digits (w := 0) (x := 0) (a := '0') (b := '0') rfl rfl
      (hexValue?_lowHexDigit (show c.toNat / 16 < 16 by omega))
      (hexValue?_lowHexDigit (show c.toNat % 16 < 16 by omega))
    have code : ((0 * 16 + 0) * 16 + c.toNat / 16) * 16 + c.toNat % 16 = c.toNat := by omega
    rw [code] at digits
    have notLow : Reader.isLowSurrogate c.toNat = false := by simp [Reader.isLowSurrogate]; omega
    have notHigh : Reader.isHighSurrogate c.toNat = false := by simp [Reader.isHighSurrogate]; omega
    have spelled := CharSpelled.code digits notLow notHigh
    rwa [Char.ofNat_toNat] at spelled
  · exact .plain c (by omega) quote backslash

theorem content_spelled (cs : List Char) : ContentSpelled cs (cs.flatMap escapeChar) := by
  induction cs with
  | nil => exact .nil
  | cons c rest ih =>
    rw [List.flatMap_cons]
    exact .cons (escapeChar_spelled c) ih

theorem string_spelled (s : String) : StringSpelled s (stringChars s) := .quoted (content_spelled s.toList)

theorem whole_chars (spelled : WholeSpelled whole ws) : ws = Decimal.chars whole := by
  cases spelled <;> rfl

theorem number_spelled (written : NumberSpelled n cs) : NumberSpelled n n.chars := by
  cases written with
  | @parts whole ws fraction fs exponent es negative wholeSpelled fractionSpelled exponentSpelled =>
    rw [whole_chars wholeSpelled] at wholeSpelled
    have signed : ∃ es', ExponentSpelled exponent es' ∧
        Number.chars ⟨negative,whole,fraction,exponent⟩ = sign negative ++ (Decimal.chars whole ++ (fs ++ es')) := by
      have small : 'e' = 'e' ∨ 'e' = 'E' := .inl rfl
      cases fractionSpelled <;> cases exponentSpelled with
      | none => exact ⟨_,.none,by simp [Number.chars,sign]⟩
      | unsigned d more letter =>
        exact ⟨_,.signed false d more small,by simp [Number.chars,Exponent.chars,sign]⟩
      | signed minus d more letter =>
        exact ⟨_,.signed minus d more small,by simp [Number.chars,Exponent.chars,sign]⟩
    obtain ⟨es',printed,same⟩ := signed
    rw [same]
    exact .parts negative wholeSpelled fractionSpelled printed

theorem whole_ofNat (n : Nat) : WholeSpelled (Decimal.ofNat n) (Decimal.chars (Decimal.ofNat n)) := by
  cases digits : Decimal.ofNat n with
  | nil => exact absurd digits (Decimal.ofNat_ne_nil n)
  | cons d more =>
    by_cases zero : d = 0
    · have alone := Decimal.ofNat_head (n := n) (by rw [digits,zero]; rfl)
      rw [← digits,alone]
      exact .zero
    · exact .digits d more zero

theorem ofNat_spelled (n : Nat) : NumberSpelled (Number.ofNat n) (Decimal.chars (Decimal.ofNat n)) := by
  have spelled := NumberSpelled.parts false (whole_ofNat n) .none .none
  rwa [List.append_nil,List.append_nil] at spelled

def Printable : Nat → Json → Prop
  | _, .null | _, .bool _ | _, .string _ => True
  | _, .number n => ∃ cs, NumberSpelled n cs
  | 0, .array _ | 0, .object _ => False
  | depth + 1, .array items => ∀ v ∈ items, Printable depth v
  | depth + 1, .object members =>
    (∀ pair ∈ members.head?, pair.1 ≠ Reader.numberKey) ∧ ∀ pair ∈ members, Printable depth pair.2

theorem ofNat_printable (depth n : Nat) : Printable depth (.number (.ofNat n)) := by
  rw [Printable]
  exact ⟨_,ofNat_spelled n⟩

section
variable {inner : Json → List Char → Prop}

theorem bare_item (spelled : inner v cs) : ItemSpelled inner v cs := by
  have item := ItemSpelled.item blank_nil spelled blank_nil
  rwa [List.nil_append,List.append_nil] at item

theorem bare_member (key : String) (spelled : inner v cs) :
    MemberSpelled inner (key,v) (stringChars key ++ ':' :: cs) :=
  .member blank_nil (string_spelled key) blank_nil (bare_item spelled)

theorem items_printed (printed : ∀ v ∈ items, inner v (chars v)) (first : Json) :
    ∃ ds, itemChars (first :: items) = chars first ++ ds ∧ Followed (ItemSpelled inner) items ds := by
  induction items generalizing first with
  | nil => exact ⟨[],by rw [itemChars,List.append_nil],.nothing⟩
  | cons v rest ih =>
    obtain ⟨ds,same,followed⟩ := ih (fun w member => printed w (List.mem_cons_of_mem _ member)) v
    refine ⟨',' :: (chars v ++ ds),by rw [itemChars,same],?_⟩
    exact .comma (bare_item (printed v List.mem_cons_self)) followed

theorem members_printed {members : List (String × Json)} (printed : ∀ pair ∈ members, inner pair.2 (chars pair.2))
    (key : String) (first : Json) :
    ∃ ds, memberChars ((key,first) :: members) = stringChars key ++ ':' :: (chars first ++ ds) ∧
      Followed (MemberSpelled inner) members ds := by
  induction members generalizing key first with
  | nil => exact ⟨[],by rw [memberChars,List.append_nil],.nothing⟩
  | cons pair rest ih =>
    obtain ⟨k,v⟩ := pair
    obtain ⟨ds,same,followed⟩ := ih (fun other member => printed other (List.mem_cons_of_mem _ member)) k v
    refine ⟨',' :: (stringChars k ++ ':' :: chars v ++ ds),?_,?_⟩
    · rw [memberChars,same]
      simp
    · exact .comma (bare_member k (printed (k,v) List.mem_cons_self)) followed

end

theorem leaf_printed (depth : Nat) (v : Json) (printable : Printable depth v) (notArray : v.kind ≠ .array)
    (notObject : v.kind ≠ .object) : LeafSpelled v (chars v) := by
  cases v with
  | null => exact .null
  | bool b => cases b with
    | false => exact .false
    | true => exact .true
  | number n =>
    rw [Printable] at printable
    obtain ⟨cs,written⟩ := printable
    exact .number (number_spelled written)
  | string s => exact .string (string_spelled s)
  | array items => exact absurd rfl notArray
  | object members => exact absurd rfl notObject

-- The printer writes one of the spellings of every tree that has any.
theorem value_printed (depth : Nat) (v : Json) (printable : Printable depth v) :
    Spelled depth v (chars v) := by
  -- By the depth, which goes down where the value goes into its items or members.
  induction depth generalizing v with
  | zero =>
    cases v with
    | array items => exact printable.elim
    | object members => exact printable.elim
    | _ => exact leaf_printed 0 _ printable (by simp [kind]) (by simp [kind])
  | succ depth ih =>
    cases v with
    | array items =>
      cases items with
      | nil => exact .emptyArray blank_nil
      | cons first rest =>
        have inside : ∀ v ∈ first :: rest, Spelled depth v (chars v) := fun v member => ih v (printable v member)
        obtain ⟨ds,same,followed⟩ := items_printed (fun v member => inside v (List.mem_cons_of_mem _ member)) first
        rw [chars,same,List.append_assoc]
        exact .array (bare_item (inside first List.mem_cons_self)) followed
    | object members =>
      cases members with
      | nil => exact .emptyObject blank_nil
      | cons pair rest =>
        obtain ⟨key,first⟩ := pair
        obtain ⟨plain,printed⟩ := printable
        have inside : ∀ pair ∈ (key,first) :: rest, Spelled depth pair.2 (chars pair.2) :=
          fun pair member => ih pair.2 (printed pair member)
        obtain ⟨ds,same,followed⟩ :=
          members_printed (fun pair member => inside pair (List.mem_cons_of_mem _ member)) key first
        have member := bare_member key (inside (key,first) List.mem_cons_self)
        have spelled := ValueSpelled.object (plain (key,first) rfl) member followed
        change ValueSpelled (Spelled depth) _ _
        rw [chars,same]
        simpa using spelled
    | _ => exact .leaf (leaf_printed (depth + 1) _ printable (by simp [kind]) (by simp [kind]))

theorem text_printed {v : Json} (printable : Printable Reader.maxDepth v) : TextSpelled v v.text := by
  rw [TextSpelled,text,String.toList_ofList]
  exact bare_item (value_printed _ v printable)

theorem parse_text {v : Json} (printable : Printable Reader.maxDepth v) : parse v.text = .ok (settled v) :=
  Reading.parse_spelled (text_printed printable)

theorem settled_array {items : List Json} (same : ∀ v ∈ items, settled v = v) :
    settled (.array items) = .array items := by
  rw [settled,settledItems_eq_map,List.map_congr_left same,List.map_id']

theorem settledMembers_same {members : List (String × Json)} (same : ∀ pair ∈ members, settled pair.2 = pair.2) :
    settledMembers members = members := by
  rw [settledMembers_eq_map,List.map_congr_left (g := id),List.map_id]
  intro pair member
  rw [same pair member]
  rfl

theorem settled_object {members : Members} (sorted : members.Sorted)
    (same : ∀ pair ∈ members, settled pair.2 = pair.2) : settled (.object members) = .object members := by
  rw [settled,settledMembers_same same,Members.ofList_of_sorted sorted]

-- Without control characters, so on one line. What is printed is: strings escape them, and the rest
-- is written without blanks.
def Visible (cs : List Char) : Prop := ∀ c ∈ cs, 0x20 ≤ c.toNat

theorem visible_append {front back : List Char} : Visible (front ++ back) ↔ Visible front ∧ Visible back :=
  List.forall_mem_append

theorem visible_cons {c : Char} {rest : List Char} : Visible (c :: rest) ↔ 0x20 ≤ c.toNat ∧ Visible rest :=
  List.forall_mem_cons

theorem escapeChar_visible (c : Char) : Visible (escapeChar c) := by
  have digits : ∀ n, n < 16 → 0x20 ≤ (lowHexDigit n).toNat := by decide
  unfold escapeChar
  split_ifs with quote backslash backspace formFeed lineFeed carriageReturn tab low
  iterate 7
    · exact visible_cons.mpr ⟨by decide,List.forall_mem_singleton.mpr (by decide)⟩
  · have high := digits (c.toNat / 16) (by omega)
    have low := digits (c.toNat % 16) (by omega)
    simp only [Visible,List.forall_mem_cons]
    exact ⟨by decide,by decide,by decide,by decide,high,low,nofun⟩
  · exact List.forall_mem_singleton.mpr (Nat.le_of_not_lt low)

theorem string_visible (s : String) : Visible (stringChars s) := by
  have content : Visible (s.toList.flatMap escapeChar) := by
    intro d member
    obtain ⟨c,_,inside⟩ := List.mem_flatMap.mp member
    exact escapeChar_visible c d inside
  exact visible_cons.mpr ⟨by decide,visible_append.mpr ⟨content,List.forall_mem_singleton.mpr (by decide)⟩⟩

theorem digits_visible (digits : Decimal.Digits) : Visible (Decimal.chars digits) := by
  have each : ∀ d : Fin 10, 0x20 ≤ (Decimal.digitChar d).toNat := by decide
  exact List.forall_mem_map.mpr fun d _ => each d

theorem number_visible (n : Number) : Visible n.chars := by
  obtain ⟨negative,whole,fraction,exponent⟩ := n
  simp only [Number.chars,visible_append]
  refine ⟨⟨⟨?_,digits_visible whole⟩,?_⟩,?_⟩
  · cases negative <;> simp [Visible]
  · cases fraction with
    | none => exact List.forall_mem_nil _
    | some digits => exact visible_cons.mpr ⟨by decide,digits_visible digits⟩
  · cases exponent with
    | none => exact List.forall_mem_nil _
    | some e =>
      have mark : ∀ minus : Bool, 0x20 ≤ (if minus then '-' else '+').toNat := by decide
      exact visible_cons.mpr ⟨by decide,visible_cons.mpr ⟨mark e.negative,digits_visible e.digits⟩⟩

mutual

theorem chars_visible : ∀ v : Json, Visible (chars v)
  | .null => by simp [chars,Visible]
  | .bool true => by simp [chars,Visible]
  | .bool false => by simp [chars,Visible]
  | .number n => number_visible n
  | .string s => string_visible s
  | .array items => by
    rw [chars,visible_cons,visible_append]
    exact ⟨by decide,itemChars_visible items,by simp [Visible]⟩
  | .object members => by
    rw [chars,visible_cons,visible_append]
    exact ⟨by decide,memberChars_visible members,by simp [Visible]⟩

theorem itemChars_visible : ∀ items : List Json, Visible (itemChars items)
  | [] => nofun
  | [v] => chars_visible v
  | v :: w :: rest => by
    rw [itemChars,visible_append,visible_cons]
    exact ⟨chars_visible v,by decide,itemChars_visible (w :: rest)⟩

theorem memberChars_visible : ∀ members : List (String × Json), Visible (memberChars members)
  | [] => nofun
  | [(k,v)] => by
    rw [memberChars,visible_append,visible_cons]
    exact ⟨string_visible k,by decide,chars_visible v⟩
  | (k,v) :: w :: rest => by
    rw [memberChars,visible_append,visible_cons,visible_append,visible_cons]
    exact ⟨string_visible k,by decide,chars_visible v,by decide,memberChars_visible (w :: rest)⟩

end

theorem text_visible (v : Json) : Visible v.text.toList := by
  rw [text,String.toList_ofList]
  exact chars_visible v

end ClusterClient.Json.Printing
