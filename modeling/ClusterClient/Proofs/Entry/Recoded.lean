import ClusterClient.Proofs.Entry.Printed
namespace ClusterClient

def Json.Number.DigitsOnly (n : Json.Number) : Prop :=
  ∃ digits, Json.Grammar.NumberSpelled n (Decimal.chars digits)

namespace Json.Number
open Grammar

theorem DigitsOnly.whole {n : Number} (plain : n.DigitsOnly) :
    ∃ whole cs, n = ⟨false,whole,none,none⟩ ∧ WholeSpelled whole cs := by
  obtain ⟨digits,spelled⟩ := plain
  have none_other : ∀ c, Decimal.digit? c = none → c ∉ Decimal.chars digits :=
    fun c other member => Decimal.digit?_of_mem member other
  generalize all : Decimal.chars digits = cs at spelled none_other
  cases spelled with
  | @parts whole ws fraction fs exponent es negative wholeSpelled fractionSpelled exponentSpelled =>
    have unsigned : negative = false := by
      cases negative with
      | false => rfl
      | true => exact absurd (by simp [sign]) (none_other '-' (by decide))
    have pointless : fraction = none := by
      cases fractionSpelled with
      | none => rfl
      | some d more => exact absurd (by simp) (none_other '.' (by decide))
    have letterless : ∀ letter, letter = 'e' ∨ letter = 'E' → letter ∉ es := by
      intro letter either member
      refine none_other letter ?_ (by simp [member])
      rcases either with rfl | rfl <;> decide
    have unscaled : exponent = none := by
      cases exponentSpelled with
      | none => rfl
      | unsigned d more either => exact absurd List.mem_cons_self (letterless _ either)
      | signed minus d more either => exact absurd List.mem_cons_self (letterless _ either)
    subst unsigned pointless unscaled
    exact ⟨whole,ws,rfl,wholeSpelled⟩

theorem whole_canonical {whole : Decimal.Digits} {cs : List Char} (spelled : WholeSpelled whole cs) :
    Decimal.ofNat (Decimal.value whole) = whole := by
  cases spelled with
  | zero => exact Decimal.ofNat_zero
  | digits d more nonzero =>
    refine Decimal.ofNat_value (List.cons_ne_nil _ _) ?_
    intro zero
    exact absurd (Option.some.inj zero) nonzero

end Json.Number

namespace Value

def padded (encoded : String) : String := String.ofList (Base64.padded encoded.toList)

theorem encode_decoded {encoded : String} {value : List UInt8} (read : decode encoded = .ok value) :
    encode value = padded encoded := by
  rw [encode,padded,Base64.encode_accepted (decode_eq_ok.mp read)]

end Value

namespace Entry
open Json (Members)

def counters : List String := ["CreateIndex", "ModifyIndex", "LockIndex", "Flags"]

def digitsOf (members : Members) (field : String) : String :=
  match members.get? field with
  | some (.number n) => n.text
  | _ => "0"

def textOf (members : Members) (field : String) : String :=
  match members.get? field with
  | some (.string s) => s
  | _ => ""

def tidied (members : Members) : Members :=
  [("CreateIndex", .string (digitsOf members "CreateIndex")), ("Flags", .string (digitsOf members "Flags")),
    ("Key", .string (textOf members "Key")), ("LockIndex", .string (digitsOf members "LockIndex")),
    ("ModifyIndex", .string (digitsOf members "ModifyIndex")), ("Session", .string (textOf members "Session")),
    ("Value", .string (Value.padded (textOf members "Value")))]

def asNumber : Json → Json
  | .string s =>
    match Decimal.ofChars? s.toList with
    | some digits => .number ⟨false, digits, none, none⟩
    | none => .string s
  | other => other

def renumbered : Json → Json
  | .object members => .object (members.map fun pair => if pair.1 ∈ counters then (pair.1, asNumber pair.2) else pair)
  | other => other

theorem stringField_ok {members : Members} {field : String} {found : Option String}
    (read : stringField members field = .ok found) : found.getD "" = textOf members field := by
  unfold stringField at read
  unfold textOf
  split at read
  · rename_i missing
    cases Except.ok.inj read
    rw [missing]
    rfl
  · rename_i s present
    cases Except.ok.inj read
    rw [present]
    rfl
  · cases read

theorem requiredField_ok {members : Members} {field : String} {policy : MissingFields} {found : Option String}
    (read : requiredField members field policy = .ok found) : found.getD "" = textOf members field := by
  refine stringField_ok ?_
  unfold requiredField at read
  split at read
  · cases read
  · exact read

structure ReadFrom (members : Members) (e : Entry) : Prop where
  createIndex : indexField members "CreateIndex" = .ok e.createIndex
  modifyIndex : indexField members "ModifyIndex" = .ok e.modifyIndex
  lockIndex : indexField members "LockIndex" = .ok e.lockIndex
  flags : indexField members "Flags" = .ok e.flags
  session : e.session = textOf members "Session"
  key : e.key = textOf members "Key"
  value : Value.decode (textOf members "Value") = .ok e.value

theorem ofMembers_readFrom {members : Members} {policy : MissingFields} {e : Entry}
    (decoded : ofMembers members policy = .ok e) : ReadFrom members e := by
  unfold ofMembers at decoded
  obtain ⟨createIndex,readCreate,decoded⟩ := bind_eq_ok.mp decoded
  obtain ⟨modifyIndex,readModify,decoded⟩ := bind_eq_ok.mp decoded
  obtain ⟨lockIndex,readLock,decoded⟩ := bind_eq_ok.mp decoded
  obtain ⟨flags,readFlags,decoded⟩ := bind_eq_ok.mp decoded
  obtain ⟨session,readSession,decoded⟩ := bind_eq_ok.mp decoded
  obtain ⟨key,readKey,decoded⟩ := bind_eq_ok.mp decoded
  obtain ⟨encoded,readValue,decoded⟩ := bind_eq_ok.mp decoded
  obtain ⟨value,decodedValue,decoded⟩ := bind_eq_ok.mp decoded
  cases Except.ok.inj decoded
  rw [requiredField_ok readValue] at decodedValue
  exact ⟨readCreate,readModify,readLock,readFlags,stringField_ok readSession,requiredField_ok readKey,decodedValue⟩

theorem ofJson_readFrom {members : Members} {policy : MissingFields} {e : Entry}
    (decoded : ofJson policy (.object members) = .ok e) : ReadFrom members e := by
  cases members with
  | nil => cases decoded
  | cons pair rest => exact ofMembers_readFrom decoded

theorem word_read {members : Members} {field : String} {n : UInt64} (read : indexField members field = .ok n)
    (plain : ∀ number, members.get? field = some (.number number) → number.DigitsOnly) :
    word n = digitsOf members field := by
  unfold indexField at read
  unfold digitsOf
  cases found : members.get? field with
  | none =>
    rw [found] at read
    cases Except.ok.inj read
    rw [word,Decimal.text]
    exact congrArg _ (congrArg _ Decimal.ofNat_zero)
  | some v =>
    rw [found] at read
    cases v with
    | number number =>
      obtain ⟨whole,cs,rfl,spelled⟩ := (plain number found).whole
      simp only [Index.ofNumber?,Bool.false_eq_true,if_false,Index.ofNat?] at read
      split at read
      · rename_i accepted fits
        cases Except.ok.inj read
        split at fits
        · rename_i small
          cases Option.some.inj fits
          have same : (UInt64.ofNat (Decimal.value whole)).toNat = Decimal.value whole :=
            UInt64.toNat_ofNat_of_lt' small
          rw [word,same,Decimal.text,Json.Number.whole_canonical spelled]
          simp [Json.Number.text,Json.Number.chars]
        · cases fits
      · cases read
    | _ => cases read

theorem asNumber_word (n : UInt64) : asNumber (.string (word n)) = .number (.ofNat n.toNat) := by
  rw [asNumber,word,Decimal.text,String.toList_ofList,Decimal.ofChars?_chars]
  rfl

theorem renumbered_toJson (e : Entry) :
    renumbered e.toJson = .object [("CreateIndex", .number (.ofNat e.createIndex.toNat)),
      ("Flags", .number (.ofNat e.flags.toNat)), ("Key", .string e.key), ("LockIndex", .number (.ofNat e.lockIndex.toNat)),
      ("ModifyIndex", .number (.ofNat e.modifyIndex.toNat)), ("Session", .string e.session),
      ("Value", .string (Value.encode e.value))] := by
  rw [toJson_eq_printed]
  simp [renumbered,printed,counters,asNumber_word]

theorem ofJson_renumbered (policy : MissingFields) (e : Entry) : ofJson policy (renumbered e.toJson) = .ok e := by
  rw [renumbered_toJson,ofJson_object (List.cons_ne_nil _ _)]
  refine ofMembers_found policy ?_
  intro pair member
  simp only [wire,List.mem_cons,List.not_mem_nil,or_false] at member
  rcases member with rfl | rfl | rfl | rfl | rfl | rfl | rfl <;> rfl

-- Reading and writing tidies up and does nothing else, and with its counters as numbers what was
-- written is read as the same entry again.
theorem recoding_tidies (policy : MissingFields) (members : Members) (e : Entry)
    (plain : ∀ field ∈ counters, ∀ n, members.get? field = some (.number n) → n.DigitsOnly)
    (decoded : ofJson policy (.object members) = .ok e) :
    e.toJson = .object (tidied members) ∧ ∀ again, ofJson again (renumbered e.toJson) = .ok e := by
  have read := ofJson_readFrom decoded
  refine ⟨?_,fun again => ofJson_renumbered again e⟩
  -- Only digits are kept as they are written: the word of a number is printed from its value.
  have createIndex := word_read read.createIndex (plain _ (by simp [counters]))
  have modifyIndex := word_read read.modifyIndex (plain _ (by simp [counters]))
  have lockIndex := word_read read.lockIndex (plain _ (by simp [counters]))
  have flags := word_read read.flags (plain _ (by simp [counters]))
  rw [toJson_eq_printed,printed,tidied,createIndex,modifyIndex,lockIndex,flags,read.session,read.key,
    Value.encode_decoded read.value]

def untidy : Members :=
  [("Value", .string "dGVz\ndA"), ("Extra", .null), ("Key", .string "a"),
    ("CreateIndex", .number (.ofNat 18446744073709551615))]

theorem recoding_tidies_untidy :
    (Entry.toJson { createIndex := 18446744073709551615, key := "a", value := [0x74, 0x65, 0x73, 0x74] }) =
      .object [("CreateIndex", .string "18446744073709551615"), ("Flags", .string "0"), ("Key", .string "a"),
        ("LockIndex", .string "0"), ("ModifyIndex", .string "0"), ("Session", .string ""),
        ("Value", .string "dGVzdA==")] := by
  have plain : ∀ field ∈ counters, ∀ n, untidy.get? field = some (.number n) → n.DigitsOnly := by
    intro field member n found
    simp only [counters,List.mem_cons,List.not_mem_nil,or_false] at member
    rcases member with rfl | rfl | rfl | rfl <;> cases found
    exact ⟨_,Json.Printing.ofNat_spelled _⟩
  have decoded : ofJson .tolerant (.object untidy) =
      .ok { createIndex := 18446744073709551615, key := "a", value := [0x74, 0x65, 0x73, 0x74] } := by
    decide +kernel
  rw [(recoding_tidies .tolerant untidy _ plain decoded).1]
  have spelled : digitsOf untidy "CreateIndex" = "18446744073709551615" := by decide +kernel
  have symbols : Value.padded (textOf untidy "Value") = "dGVzdA==" := by decide +kernel
  rw [tidied,spelled,symbols]
  rfl

end Entry
end ClusterClient
