import ClusterClient.Text.Encoding
namespace ClusterClient.Utf8

theorem decodeFrom_byte {b : Nat} (small : b < 256) (p : Pending) (rest : List UInt8) :
    decodeFrom p (UInt8.ofNat b :: rest) = (feed p b).1 ++ decodeFrom (feed p b).2 rest := by
  have same : (UInt8.ofNat b).toNat = b := by
    rw [UInt8.toNat_ofNat']
    exact Nat.mod_eq_of_lt small
  rw [decodeFrom,same]

theorem feed_last {value low high b : Nat} (within : low ≤ b ∧ b ≤ high) :
    feed ⟨1,value,low,high⟩ b = ([Char.ofNat (value * 64 + (b - 0x80))],idle) := by
  simp only [feed]
  rw [if_pos within]

theorem feed_inner {more value low high b : Nat} (within : low ≤ b ∧ b ≤ high) :
    feed ⟨more + 2,value,low,high⟩ b = ([],⟨more + 1,value * 64 + (b - 0x80),0x80,0xBF⟩) := by
  simp only [feed]
  rw [if_pos within]

-- A character of each length; the first byte says how many follow and how far the next may go.
theorem read_one {v : Nat} (bound : v ≤ 0x7F) (rest : List UInt8) :
    decodeFrom idle (UInt8.ofNat v :: rest) = Char.ofNat v :: decodeFrom idle rest := by
  have begun : feed idle v = ([Char.ofNat v],idle) := by
    change start v = _
    rw [start,if_pos (by omega)]
  rw [decodeFrom_byte (by omega),begun]
  rfl

theorem read_two {v : Nat} (above : 0x7F < v) (bound : v ≤ 0x7FF) (rest : List UInt8) :
    decodeFrom idle (UInt8.ofNat (v / 64 % 0x20 + 0xC0) :: UInt8.ofNat (v % 0x40 + 0x80) :: rest) =
      Char.ofNat v :: decodeFrom idle rest := by
  have begun : feed idle (v / 64 % 0x20 + 0xC0) = ([],⟨1,v / 64 % 0x20 + 0xC0 - 0xC0,0x80,0xBF⟩) := by
    change start _ = _
    rw [start,if_neg (by omega),if_neg (by omega),if_pos (by omega)]
  have whole : (v / 64 % 0x20 + 0xC0 - 0xC0) * 64 + (v % 0x40 + 0x80 - 0x80) = v := by omega
  rw [decodeFrom_byte (by omega),begun,decodeFrom_byte (by omega),feed_last (by omega),whole]
  rfl

theorem read_three {v : Nat} (above : 0x7FF < v) (bound : v ≤ 0xFFFF) (scalar : v < 0xD800 ∨ 0xDFFF < v)
    (rest : List UInt8) :
    decodeFrom idle (UInt8.ofNat (v / 4096 % 0x10 + 0xE0) :: UInt8.ofNat (v / 64 % 0x40 + 0x80) ::
      UInt8.ofNat (v % 0x40 + 0x80) :: rest) = Char.ofNat v :: decodeFrom idle rest := by
  have begun : feed idle (v / 4096 % 0x10 + 0xE0) =
      ([],⟨2,v / 4096 % 0x10 + 0xE0 - 0xE0,if v / 4096 % 0x10 + 0xE0 = 0xE0 then 0xA0 else 0x80,
        if v / 4096 % 0x10 + 0xE0 = 0xED then 0x9F else 0xBF⟩) := by
    change start _ = _
    rw [start,if_neg (by omega),if_neg (by omega),if_neg (by omega),if_pos (by omega)]
  -- Neither an overlong form nor a surrogate, so the narrowed ranges are kept to.
  have within : (if v / 4096 % 0x10 + 0xE0 = 0xE0 then 0xA0 else 0x80) ≤ v / 64 % 0x40 + 0x80 ∧
      v / 64 % 0x40 + 0x80 ≤ (if v / 4096 % 0x10 + 0xE0 = 0xED then 0x9F else 0xBF) := by
    constructor <;> (split <;> omega)
  have whole : ((v / 4096 % 0x10 + 0xE0 - 0xE0) * 64 + (v / 64 % 0x40 + 0x80 - 0x80)) * 64 +
      (v % 0x40 + 0x80 - 0x80) = v := by omega
  rw [decodeFrom_byte (by omega),begun,decodeFrom_byte (by omega),feed_inner within,
    decodeFrom_byte (by omega),feed_last (by omega),whole]
  rfl

theorem read_four {v : Nat} (above : 0xFFFF < v) (bound : v < 0x110000) (rest : List UInt8) :
    decodeFrom idle (UInt8.ofNat (v / 262144 % 0x08 + 0xF0) :: UInt8.ofNat (v / 4096 % 0x40 + 0x80) ::
      UInt8.ofNat (v / 64 % 0x40 + 0x80) :: UInt8.ofNat (v % 0x40 + 0x80) :: rest) =
      Char.ofNat v :: decodeFrom idle rest := by
  have begun : feed idle (v / 262144 % 0x08 + 0xF0) =
      ([],⟨3,v / 262144 % 0x08 + 0xF0 - 0xF0,if v / 262144 % 0x08 + 0xF0 = 0xF0 then 0x90 else 0x80,
        if v / 262144 % 0x08 + 0xF0 = 0xF4 then 0x8F else 0xBF⟩) := by
    change start _ = _
    rw [start,if_neg (by omega),if_neg (by omega),if_neg (by omega),if_neg (by omega),if_pos (by omega)]
  have within : (if v / 262144 % 0x08 + 0xF0 = 0xF0 then 0x90 else 0x80) ≤ v / 4096 % 0x40 + 0x80 ∧
      v / 4096 % 0x40 + 0x80 ≤ (if v / 262144 % 0x08 + 0xF0 = 0xF4 then 0x8F else 0xBF) := by
    constructor <;> (split <;> omega)
  have whole : (((v / 262144 % 0x08 + 0xF0 - 0xF0) * 64 + (v / 4096 % 0x40 + 0x80 - 0x80)) * 64 +
      (v / 64 % 0x40 + 0x80 - 0x80)) * 64 + (v % 0x40 + 0x80 - 0x80) = v := by omega
  rw [decodeFrom_byte (by omega),begun,decodeFrom_byte (by omega),feed_inner within,
    decodeFrom_byte (by omega),feed_inner (by omega),decodeFrom_byte (by omega),feed_last (by omega),whole]
  rfl

theorem read_char (c : Char) (rest : List UInt8) :
    decodeFrom idle (String.utf8EncodeChar c ++ rest) = c :: decodeFrom idle rest := by
  unfold String.utf8EncodeChar
  extract_lets v
  have scalar : v < 0xD800 ∨ 0xDFFF < v ∧ v < 0x110000 := c.valid
  have self : Char.ofNat v = c := Char.ofNat_toNat c
  clear_value v
  rw [← self]
  split
  · rename_i one
    exact read_one one rest
  · rename_i above
    split
    · rename_i two
      exact read_two (by omega) two rest
    · rename_i above
      split
      · rename_i three
        exact read_three (by omega) three (by omega) rest
      · exact read_four (by omega) (by omega) rest

theorem decodeFrom_encode (cs : List Char) : decodeFrom idle (encode cs) = cs := by
  induction cs with
  | nil => rfl
  | cons c rest ih =>
    rw [encode,List.flatMap_cons,read_char]
    change c :: decodeFrom idle (encode rest) = _
    rw [ih]

theorem decode_bytes (s : String) : decode (bytes s) = s := by
  rw [decode,bytes,decodeFrom_encode,String.ofList_toList]

theorem encodeChar_ofNat {v : Nat} (valid : v.isValidChar) : String.utf8EncodeChar (Char.ofNat v) =
    if v ≤ 0x7F then [UInt8.ofNat v]
    else if v ≤ 0x7FF then [UInt8.ofNat (v / 64 % 0x20 + 0xC0), UInt8.ofNat (v % 0x40 + 0x80)]
    else if v ≤ 0xFFFF then
      [UInt8.ofNat (v / 4096 % 0x10 + 0xE0), UInt8.ofNat (v / 64 % 0x40 + 0x80), UInt8.ofNat (v % 0x40 + 0x80)]
    else
      [UInt8.ofNat (v / 262144 % 0x08 + 0xF0), UInt8.ofNat (v / 4096 % 0x40 + 0x80),
        UInt8.ofNat (v / 64 % 0x40 + 0x80), UInt8.ofNat (v % 0x40 + 0x80)] := by
  have self : (Char.ofNat v).val.toNat = v := by
    rw [Char.ofNat,dif_pos valid]
    rfl
  unfold String.utf8EncodeChar
  rw [self]

theorem decodeFrom_goes {more value low high : Nat} {source : List UInt8}
    (kept : replacement ∉ decodeFrom ⟨more + 1,value,low,high⟩ source) :
    ∃ b rest, source = b :: rest ∧ low ≤ b.toNat ∧ b.toNat ≤ high := by
  cases source with
  | nil => exact absurd (List.mem_singleton.mpr rfl) kept
  | cons b rest =>
    by_cases within : low ≤ b.toNat ∧ b.toNat ≤ high
    · exact ⟨b,rest,rfl,within⟩
    · refine absurd (List.mem_append_left _ ?_) kept
      simp only [feed]
      rw [if_neg within]
      exact List.mem_cons_self

theorem decodeFrom_last {value low high : Nat} {source : List UInt8}
    (kept : replacement ∉ decodeFrom ⟨1,value,low,high⟩ source) :
    ∃ b rest, source = b :: rest ∧ low ≤ b.toNat ∧ b.toNat ≤ high ∧
      decodeFrom ⟨1,value,low,high⟩ source = Char.ofNat (value * 64 + (b.toNat - 0x80)) :: decodeFrom idle rest := by
  obtain ⟨b,rest,rfl,least,most⟩ := decodeFrom_goes kept
  refine ⟨b,rest,rfl,least,most,?_⟩
  rw [decodeFrom,feed_last ⟨least,most⟩]
  rfl

theorem decodeFrom_inner {more value low high : Nat} {source : List UInt8}
    (kept : replacement ∉ decodeFrom ⟨more + 2,value,low,high⟩ source) :
    ∃ b rest, source = b :: rest ∧ low ≤ b.toNat ∧ b.toNat ≤ high ∧
      decodeFrom ⟨more + 2,value,low,high⟩ source =
        decodeFrom ⟨more + 1,value * 64 + (b.toNat - 0x80),0x80,0xBF⟩ rest := by
  obtain ⟨b,rest,rfl,least,most⟩ := decodeFrom_goes kept
  refine ⟨b,rest,rfl,least,most,?_⟩
  rw [decodeFrom,feed_inner ⟨least,most⟩]
  rfl

theorem byte_eq (b : UInt8) {n : Nat} (same : n = b.toNat) : UInt8.ofNat n = b := by
  rw [same,UInt8.ofNat_toNat]

-- The first byte and some of those behind it spell a character, and the others are read afresh.
def Completes (p : Pending) (a : UInt8) (rest : List UInt8) : Prop :=
  ∃ c later, a :: rest = String.utf8EncodeChar c ++ later ∧ later.length ≤ rest.length ∧
    decodeFrom p rest = c :: decodeFrom idle later

theorem follow_two {a : UInt8} {rest : List UInt8} (least : 0xC2 ≤ a.toNat) (most : a.toNat < 0xE0)
    (kept : replacement ∉ decodeFrom ⟨1,a.toNat - 0xC0,0x80,0xBF⟩ rest) : Completes ⟨1,a.toNat - 0xC0,0x80,0xBF⟩ a rest := by
  obtain ⟨b,later,rfl,low,high,read⟩ := decodeFrom_last kept
  refine ⟨_,later,?_,Nat.le_succ _,read⟩
  rw [encodeChar_ofNat (Or.inl (by omega)),if_neg (by omega),if_pos (by omega),byte_eq a (by omega),byte_eq b (by omega)]
  rfl

theorem follow_three {a : UInt8} {rest : List UInt8} {low high : Nat} (least : 0xE0 ≤ a.toNat) (most : a.toNat < 0xF0)
    (above : 0x80 ≤ low ∧ (a.toNat = 0xE0 → 0xA0 ≤ low)) (below : high ≤ 0xBF ∧ (a.toNat = 0xED → high ≤ 0x9F))
    (kept : replacement ∉ decodeFrom ⟨2,a.toNat - 0xE0,low,high⟩ rest) : Completes ⟨2,a.toNat - 0xE0,low,high⟩ a rest := by
  obtain ⟨b,inner,rfl,lowB,highB,readB⟩ := decodeFrom_inner kept
  rw [readB] at kept
  obtain ⟨d,later,rfl,lowD,highD,read⟩ := decodeFrom_last kept
  refine ⟨_,later,?_,?_,readB.trans read⟩
  · have valid : (((a.toNat - 0xE0) * 64 + (b.toNat - 0x80)) * 64 + (d.toNat - 0x80)).isValidChar := by
      rw [Nat.isValidChar]
      omega
    rw [encodeChar_ofNat valid,if_neg (by omega),if_neg (by omega),if_pos (by omega),byte_eq a (by omega),
      byte_eq b (by omega),byte_eq d (by omega)]
    rfl
  · simp only [List.length_cons]
    omega

theorem follow_four {a : UInt8} {rest : List UInt8} {low high : Nat} (least : 0xF0 ≤ a.toNat) (most : a.toNat < 0xF5)
    (above : 0x80 ≤ low ∧ (a.toNat = 0xF0 → 0x90 ≤ low)) (below : high ≤ 0xBF ∧ (a.toNat = 0xF4 → high ≤ 0x8F))
    (kept : replacement ∉ decodeFrom ⟨3,a.toNat - 0xF0,low,high⟩ rest) : Completes ⟨3,a.toNat - 0xF0,low,high⟩ a rest := by
  obtain ⟨b,inner,rfl,lowB,highB,readB⟩ := decodeFrom_inner kept
  rw [readB] at kept
  obtain ⟨d,last,rfl,lowD,highD,readD⟩ := decodeFrom_inner kept
  rw [readD] at kept
  obtain ⟨e,later,rfl,lowE,highE,read⟩ := decodeFrom_last kept
  refine ⟨_,later,?_,?_,readB.trans (readD.trans read)⟩
  · have valid : ((((a.toNat - 0xF0) * 64 + (b.toNat - 0x80)) * 64 + (d.toNat - 0x80)) * 64 +
        (e.toNat - 0x80)).isValidChar := by
      rw [Nat.isValidChar]
      omega
    rw [encodeChar_ofNat valid,if_neg (by omega),if_neg (by omega),if_neg (by omega),byte_eq a (by omega),
      byte_eq b (by omega),byte_eq d (by omega),byte_eq e (by omega)]
    rfl
  · simp only [List.length_cons]
    omega

theorem decodeFrom_cons {a : UInt8} {rest : List UInt8} (kept : replacement ∉ decodeFrom idle (a :: rest)) :
    ∃ c later, a :: rest = String.utf8EncodeChar c ++ later ∧ later.length ≤ rest.length ∧
      decodeFrom idle (a :: rest) = c :: decodeFrom idle later := by
  have begun : decodeFrom idle (a :: rest) = (start a.toNat).1 ++ decodeFrom (start a.toNat).2 rest := rfl
  rw [begun] at kept ⊢
  -- By the first byte. One that begins no sequence would have been replaced.
  unfold start at kept ⊢
  split at kept
  · rename_i one
    rw [if_pos one]
    refine ⟨_,rest,?_,Nat.le_refl _,rfl⟩
    rw [encodeChar_ofNat (Or.inl (by omega)),if_pos (by omega),byte_eq a rfl]
    rfl
  rename_i above
  rw [if_neg above]
  split at kept
  · exact absurd List.mem_cons_self kept
  rename_i least
  rw [if_neg least]
  split at kept
  · rename_i two
    rw [if_pos two]
    exact follow_two (Nat.le_of_not_lt least) two kept
  rename_i least
  rw [if_neg least]
  split at kept
  · rename_i three
    rw [if_pos three]
    refine follow_three (Nat.le_of_not_lt least) three ?_ ?_ kept
    · split <;> omega
    · split <;> omega
  rename_i least
  rw [if_neg least]
  split at kept
  · rename_i four
    rw [if_pos four]
    refine follow_four (Nat.le_of_not_lt least) four ?_ ?_ kept
    · split <;> omega
    · split <;> omega
  · exact absurd List.mem_cons_self kept

theorem encode_decodeFrom (source : List UInt8) (kept : replacement ∉ decodeFrom idle source) :
    encode (decodeFrom idle source) = source := by
  -- Characters differ in their number of bytes, so the recursion is on the length.
  match source with
  | [] => rfl
  | a :: rest =>
    obtain ⟨c,later,whole,shorter,read⟩ := decodeFrom_cons kept
    rw [read] at kept ⊢
    rw [encode,List.flatMap_cons,whole]
    exact congrArg (String.utf8EncodeChar c ++ ·) (encode_decodeFrom later (List.not_mem_of_not_mem_cons kept))
termination_by source.length
decreasing_by simp only [List.length_cons]; omega

-- The replacement character has bytes of its own, and a byte that is never well-formed is read as
-- it too.
def spoil (c : Char) : List UInt8 := if c = replacement then [0xFF] else String.utf8EncodeChar c

theorem decodeFrom_spoilt (cs : List Char) : decodeFrom idle (cs.flatMap spoil) = cs := by
  induction cs with
  | nil => rfl
  | cons c rest ih =>
    rw [List.flatMap_cons,spoil]
    split
    · rename_i replaced
      change replacement :: decodeFrom idle (rest.flatMap spoil) = _
      rw [ih,replaced]
    · rw [read_char,ih]

theorem spoilt_ne {cs : List Char} (held : replacement ∈ cs) : cs.flatMap spoil ≠ encode cs := by
  induction cs with
  | nil => cases held
  | cons c rest ih =>
    intro same
    rw [encode,List.flatMap_cons,List.flatMap_cons,spoil] at same
    split at same
    · rename_i replaced
      subst replaced
      cases same
    · rename_i other
      rcases List.mem_cons.mp held with here | there
      · exact other here.symm
      · exact ih there (List.append_cancel_left same)

-- A text tells the bytes it was read from exactly if nothing in it stands for a replaced part.
theorem decode_unique_iff (value : List UInt8) :
    (∀ other, decode other = decode value → other = value) ↔ replacement ∉ (decode value).toList := by
  simp only [decode,String.toList_ofList,String.ofList_inj]
  constructor
  · intro unique held
    -- The text as it is written reads alike, and so does an ill-formed writing of it.
    refine spoilt_ne held ?_
    rw [unique _ (decodeFrom_spoilt _),unique _ (decodeFrom_encode _)]
  · intro kept other same
    rw [← encode_decodeFrom value kept,← encode_decodeFrom other (same ▸ kept),same]

end ClusterClient.Utf8
