namespace ClusterClient.Decimal

abbrev Digits := List (Fin 10)

def digit? (c : Char) : Option (Fin 10) :=
  if h : 48 ≤ c.toNat ∧ c.toNat ≤ 57 then some ⟨c.toNat - 48, by omega⟩ else none

def digitChar (d : Fin 10) : Char := Char.ofNat (48 + d.val)

def value (digits : Digits) : Nat := digits.foldl (fun n d => 10 * n + d.val) 0

def chars (digits : Digits) : List Char := digits.map digitChar

def span : List Char → Digits × List Char
  | [] => ([], [])
  | c :: rest =>
    match digit? c with
    | some d => (d :: (span rest).1, (span rest).2)
    | none => ([], c :: rest)

def ofChars? : List Char → Option Digits
  | [] => some []
  | c :: rest =>
    match digit? c, ofChars? rest with
    | some d, some digits => some (d :: digits)
    | _, _ => none

def ofNat (n : Nat) : Digits :=
  if h : n < 10 then [⟨n, h⟩]
  else ofNat (n / 10) ++ [⟨n % 10, Nat.mod_lt n (by omega)⟩]

def text (n : Nat) : String := String.ofList (chars (ofNat n))

def natural? (source : List Char) : Option Nat :=
  let digits := match source with
    | '+' :: rest => rest
    | _ => source
  match ofChars? digits with
  | some (d :: ds) => some (value (d :: ds))
  | _ => none

def word16? (source : String) : Option UInt16 :=
  match natural? source.toList with
  | some n => if n < 65536 then some (UInt16.ofNat n) else none
  | none => none

def word64? (source : String) : Option UInt64 :=
  match natural? source.toList with
  | some n => if n < 18446744073709551616 then some (UInt64.ofNat n) else none
  | none => none

theorem digit?_digitChar (d : Fin 10) : digit? (digitChar d) = some d := by
  revert d; decide

theorem ofChars?_chars (digits : Digits) : ofChars? (chars digits) = some digits := by
  induction digits with
  | nil => rfl
  | cons d rest ih =>
    have step : ofChars? (rest.map digitChar) = some rest := ih
    simp [chars, ofChars?, digit?_digitChar, step]

end ClusterClient.Decimal
