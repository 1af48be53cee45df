import ClusterClient.Entry.Basic
import Mathlib.Data.List.DropRight
namespace ClusterClient.Base64

def units : List UInt8 → List Nat
  | [] => []
  | [a] => [a.toNat / 4, a.toNat % 4 * 16]
  | [a, b] => [a.toNat / 4, a.toNat % 4 * 16 + b.toNat / 16, b.toNat % 16 * 4]
  | a :: b :: c :: rest =>
    a.toNat / 4 :: (a.toNat % 4 * 16 + b.toNat / 16) :: (b.toNat % 16 * 4 + c.toNat / 64) ::
      c.toNat % 64 :: units rest

def padding (value : List UInt8) : Nat := (4 - (units value).length % 4) % 4

def compact (source : List Char) : List Char := source.filter (fun c => !Text.isAsciiBlank c)

def bare (source : List Char) : List Char := (compact source).rdropWhile (· == '=')

theorem sextet?_symbol {n : Nat} (small : n < 64) : sextet? (symbol n) = some n := by
  have all : ∀ k : Fin 64, sextet? (symbol k.val) = some k.val := by decide
  exact all ⟨n,small⟩

theorem symbol_plain {n : Nat} (small : n < 64) : symbol n ≠ '=' ∧ Text.isAsciiBlank (symbol n) = false := by
  have all : ∀ k : Fin 64, symbol k.val ≠ '=' ∧ Text.isAsciiBlank (symbol k.val) = false := by decide
  exact all ⟨n,small⟩

theorem symbol_of_sextet? {c : Char} {n : Nat} (read : sextet? c = some n) : n < 64 ∧ symbol n = c := by
  have named : ∀ m : Nat, c.toNat = m → Char.ofNat m = c := by
    intro m same
    rw [← same,Char.ofNat_toNat]
  unfold sextet? at read
  dsimp only at read
  split at read
  · rename_i upper
    cases Option.some.inj read
    refine ⟨by omega,?_⟩
    rw [symbol,if_pos (by omega)]
    exact named _ (by omega)
  · split at read
    · rename_i lower
      cases Option.some.inj read
      refine ⟨by omega,?_⟩
      rw [symbol,if_neg (by omega),if_pos (by omega)]
      exact named _ (by omega)
    · split at read
      · rename_i digit
        cases Option.some.inj read
        refine ⟨by omega,?_⟩
        rw [symbol,if_neg (by omega),if_neg (by omega),if_pos (by omega)]
        exact named _ (by omega)
      · split at read
        · rename_i plus
          cases Option.some.inj read
          exact ⟨by decide,by rw [plus]; rfl⟩
        · split at read
          · rename_i slash
            cases Option.some.inj read
            exact ⟨by decide,by rw [slash]; rfl⟩
          · cases read

theorem sextets?_exact {cs : List Char} {ns : List Nat} :
    sextets? cs = some ns ↔ (∀ n ∈ ns, n < 64) ∧ ns.map symbol = cs := by
  induction cs generalizing ns with
  | nil =>
    simp only [sextets?,Option.some.injEq,List.map_eq_nil_iff]
    constructor
    · rintro rfl; simp
    · rintro ⟨_,rfl⟩; rfl
  | cons c rest ih =>
    constructor
    · intro read
      rw [sextets?] at read
      split at read
      · rename_i n more head tail
        cases Option.some.inj read
        obtain ⟨small,same⟩ := symbol_of_sextet? head
        obtain ⟨others,spelled⟩ := ih.mp tail
        exact ⟨by simpa [small] using others,by simp [same,spelled]⟩
      · cases read
    · rintro ⟨small,spelled⟩
      cases ns with
      | nil => cases spelled
      | cons n more =>
        obtain ⟨head,tail⟩ := List.cons.inj spelled
        have others := ih.mpr ⟨fun m member => small m (List.mem_cons_of_mem _ member),tail⟩
        rw [sextets?,← head,sextet?_symbol (small n List.mem_cons_self),others]

theorem units_lt (value : List UInt8) : ∀ n ∈ units value, n < 64 := by
  fun_induction units value with
  | case1 => simp
  | case2 a =>
    have := a.toNat_lt
    simp only [List.mem_cons,List.not_mem_nil,or_false]
    omega
  | case3 a b =>
    have := a.toNat_lt
    have := b.toNat_lt
    simp only [List.mem_cons,List.not_mem_nil,or_false]
    omega
  | case4 a b c rest ih =>
    have := a.toNat_lt
    have := b.toNat_lt
    have := c.toNat_lt
    intro n member
    simp only [List.mem_cons] at member
    rcases member with first | second | third | fourth | later
    · omega
    · omega
    · omega
    · omega
    · exact ih n later

theorem encode_units (value : List UInt8) :
    encode value = (units value).map symbol ++ List.replicate (padding value) '=' := by
  fun_induction encode value with
  | case1 => rfl
  | case2 a => rfl
  | case3 a b => rfl
  | case4 a b c rest ih =>
    have same : padding (a :: b :: c :: rest) = padding rest := by
      simp only [padding,units,List.length_cons]
      omega
    simp only [units,List.map_cons,List.cons_append,ih,same]

theorem pack_units (value : List UInt8) : pack (units value) = some value := by
  have byte : ∀ (b : UInt8) (n : Nat), n = b.toNat → UInt8.ofNat n = b := by
    intro b n same
    rw [same,UInt8.ofNat_toNat]
  fun_induction units value with
  | case1 => rfl
  | case2 a =>
    rw [pack,if_pos (by omega),byte a _ (by omega)]
  | case3 a b =>
    have := b.toNat_lt
    rw [pack,if_pos (by omega),byte a _ (by omega),byte b _ (by omega)]
  | case4 a b c rest ih =>
    have := b.toNat_lt
    have := c.toNat_lt
    rw [pack,ih,byte a _ (by omega),byte b _ (by omega),byte c _ (by omega)]

theorem units_pack {ns : List Nat} {value : List UInt8} (small : ∀ n ∈ ns, n < 64)
    (packed : pack ns = some value) : units value = ns := by
  -- Where spare bits are not zero there is no value, which leaves the cases that ask for them.
  fun_induction pack ns generalizing value with
  | case1 => cases Option.some.inj packed; rfl
  | case2 => cases packed
  | case3 w x zero =>
    simp only [List.mem_cons,List.not_mem_nil,or_false,forall_eq_or_imp,forall_eq] at small
    cases Option.some.inj packed
    simp only [units,UInt8.toNat_ofNat_of_lt' (show w * 4 + x / 16 < 256 by omega),List.cons.injEq,and_true]
    omega
  | case4 => cases packed
  | case5 w x y zero =>
    simp only [List.mem_cons,List.not_mem_nil,or_false,forall_eq_or_imp,forall_eq] at small
    cases Option.some.inj packed
    simp only [units,UInt8.toNat_ofNat_of_lt' (show w * 4 + x / 16 < 256 by omega),
      UInt8.toNat_ofNat_of_lt' (show x % 16 * 16 + y / 4 < 256 by omega),List.cons.injEq,and_true]
    omega
  | case6 => cases packed
  | case7 w x y z rest more tail ih =>
    simp only [List.mem_cons,forall_eq_or_imp] at small
    obtain ⟨hw,hx,hy,hz,others⟩ := small
    cases Option.some.inj packed
    simp only [units,UInt8.toNat_ofNat_of_lt' (show w * 4 + x / 16 < 256 by omega),
      UInt8.toNat_ofNat_of_lt' (show x % 16 * 16 + y / 4 < 256 by omega),
      UInt8.toNat_ofNat_of_lt' (show y % 4 * 64 + z < 256 by omega),ih others tail,List.cons.injEq,and_true]
    omega
  | case8 => cases packed

theorem sextets?_units (value : List UInt8) : sextets? ((units value).map symbol) = some (units value) :=
  sextets?_exact.mpr ⟨units_lt value,rfl⟩

theorem units_plain (value : List UInt8) : ∀ c ∈ (units value).map symbol, c ≠ '=' := by
  intro c member
  obtain ⟨n,listed,rfl⟩ := List.mem_map.mp member
  exact (symbol_plain (units_lt value n listed)).1

theorem encode_not_blank (value : List UInt8) : compact (encode value) = encode value := by
  refine List.filter_eq_self.mpr ?_
  intro c member
  rw [encode_units,List.mem_append] at member
  rcases member with symbols | pads
  · obtain ⟨n,listed,rfl⟩ := List.mem_map.mp symbols
    rw [(symbol_plain (units_lt value n listed)).2]
    rfl
  · rw [List.eq_of_mem_replicate pads]
    rfl

theorem cut_append (cs : List Char) (k : Nat) :
    (cs ++ List.replicate k '=').takeWhile (fun c => c != '=') = cs.takeWhile (fun c => c != '=') ∧
      (cs ++ List.replicate k '=').dropWhile (fun c => c != '=') =
        cs.dropWhile (fun c => c != '=') ++ List.replicate k '=' := by
  induction cs with
  | nil => cases k <;> simp [List.replicate_succ]
  | cons c rest ih =>
    by_cases pad : c = '='
    · simp [pad]
    · simp [pad,ih.1,ih.2]

theorem cut_units (value : List UInt8) (k : Nat) :
    ((units value).map symbol ++ List.replicate k '=').takeWhile (fun c => c != '=') =
        (units value).map symbol ∧
      ((units value).map symbol ++ List.replicate k '=').dropWhile (fun c => c != '=') =
        List.replicate k '=' := by
  have plain : ∀ c ∈ (units value).map symbol, (c != '=') = true :=
    fun c member => bne_iff_ne.mpr (units_plain value c member)
  obtain ⟨front,back⟩ := cut_append ((units value).map symbol) k
  rw [front,back,List.takeWhile_eq_self_iff.mpr plain,List.dropWhile_eq_nil_iff.mpr plain]
  exact ⟨rfl,rfl⟩

theorem padded_of_cut {cs : List Char} (pads : ∀ c ∈ cs.dropWhile (fun c => c != '='), c = '=') :
    cs = cs.takeWhile (fun c => c != '=') ++
      List.replicate (cs.dropWhile (fun c => c != '=')).length '=' := by
  rw [← List.eq_replicate_of_mem pads,List.takeWhile_append_dropWhile]

theorem decode_compact (source : List Char) :
    decode source =
      if ((compact source).dropWhile (fun c => c != '=')).all (fun c => c == '=') &&
          ((compact source).dropWhile (fun c => c != '=')).length ≤
            (4 - ((compact source).takeWhile (fun c => c != '=')).length % 4) % 4 then
        match sextets? ((compact source).takeWhile (fun c => c != '=')) with
        | some ns => pack ns
        | none => none
      else none := rfl

-- What is accepted as a value: the symbols of its groups, and no more padding than writing puts.
theorem decode_parts (source : List Char) (value : List UInt8) :
    decode source = some value ↔
      ∃ j, j ≤ padding value ∧ compact source = (units value).map symbol ++ List.replicate j '=' := by
  rw [decode_compact]
  constructor
  · intro read
    split at read
    · rename_i checked
      obtain ⟨pads,bound⟩ := Bool.and_eq_true_iff.mp checked
      split at read
      · rename_i ns spelled
        obtain ⟨small,symbols⟩ := sextets?_exact.mp spelled
        have groups := units_pack small read
        refine ⟨((compact source).dropWhile (fun c => c != '=')).length,?_,?_⟩
        · rw [← symbols,List.length_map,← groups] at bound
          exact of_decide_eq_true bound
        · rw [groups,symbols]
          exact padded_of_cut (fun c member => beq_iff_eq.mp (List.all_eq_true.mp pads c member))
      · cases read
    · cases read
  · rintro ⟨j,bound,same⟩
    obtain ⟨symbols,pads⟩ := cut_units value j
    have allowed : j ≤ (4 - ((units value).map symbol).length % 4) % 4 := by
      rwa [List.length_map]
    -- The bound on the padding is counted from the symbols, of which there are as many as units.
    rw [same,symbols,pads,if_pos (by simpa using allowed),sextets?_units]
    exact pack_units value

theorem encode_parts {value : List UInt8} {cs : List Char} {k : Nat}
    (stripped : encode value = cs ++ List.replicate k '=') :
    ∃ j, j ≤ padding value ∧ cs = (units value).map symbol ++ List.replicate j '=' := by
  obtain ⟨front,back⟩ := cut_append cs k
  obtain ⟨symbols,pads⟩ := cut_units value (padding value)
  rw [← stripped,encode_units,symbols] at front
  rw [← stripped,encode_units,pads] at back
  have lengths := congrArg List.length back
  simp only [List.length_append,List.length_replicate] at lengths
  refine ⟨(cs.dropWhile (fun c => c != '=')).length,by omega,?_⟩
  rw [front]
  refine padded_of_cut ?_
  intro c member
  have pad : c ∈ List.replicate (padding value) '=' := by
    rw [back]
    exact List.mem_append_left _ member
  exact List.eq_of_mem_replicate pad

theorem decode_eq_some (source : List Char) (value : List UInt8) :
    decode source = some value ↔ ∃ k, encode value = compact source ++ List.replicate k '=' := by
  rw [decode_parts]
  constructor
  · rintro ⟨j,bound,same⟩
    refine ⟨padding value - j,?_⟩
    rw [same,encode_units,List.append_assoc,List.replicate_append_replicate,Nat.add_sub_cancel' bound]
  · rintro ⟨k,stripped⟩
    exact encode_parts stripped

theorem decode_encode (value : List UInt8) : decode (encode value) = some value :=
  (decode_eq_some _ _).mpr ⟨0,by simp [encode_not_blank]⟩

theorem rdropWhile_pads {cs : List Char} (plain : ∀ c ∈ cs, c ≠ '=') (j : Nat) :
    (cs ++ List.replicate j '=').rdropWhile (· == '=') = cs := by
  induction j with
  | zero =>
    rw [List.replicate_zero,List.append_nil]
    refine List.rdropWhile_eq_self_iff.mpr ?_
    intro some
    simpa using plain _ (List.getLast_mem some)
  | succ j ih =>
    rw [List.replicate_succ',← List.append_assoc,List.rdropWhile_concat_pos _ _ _ (by rfl)]
    exact ih

theorem bare_accepted {source : List Char} {value : List UInt8} (read : decode source = some value) :
    bare source = (units value).map symbol := by
  obtain ⟨j,_,same⟩ := (decode_parts _ _).mp read
  rw [bare,same,rdropWhile_pads (units_plain value)]

theorem units_injective {value other : List UInt8}
    (same : (units value).map symbol = (units other).map symbol) : value = other := by
  have groups := sextets?_units value
  rw [same,sextets?_units,Option.some.injEq] at groups
  have packed := pack_units value
  rw [← groups,pack_units,Option.some.injEq] at packed
  exact packed.symm

def padded (source : List Char) : List Char :=
  compact source ++ List.replicate ((4 - (compact source).length % 4) % 4) '='

theorem encode_accepted {source : List Char} {value : List UInt8} (read : decode source = some value) :
    encode value = padded source := by
  obtain ⟨j,bound,same⟩ := (decode_parts _ _).mp read
  have length : (compact source).length = (units value).length + j := by
    rw [same,List.length_append,List.length_map,List.length_replicate]
  have missing : (4 - (compact source).length % 4) % 4 = padding value - j := by
    rw [padding] at bound ⊢
    omega
  rw [padded,missing,same,encode_units,List.append_assoc,List.replicate_append_replicate,
    Nat.add_sub_cancel' bound]

theorem decode_alike {source text : List Char} {value other : List UInt8}
    (read : decode source = some value) (readOther : decode text = some other) :
    value = other ↔ bare source = bare text := by
  rw [bare_accepted read,bare_accepted readOther]
  constructor
  · rintro rfl; rfl
  · exact units_injective

end ClusterClient.Base64

namespace ClusterClient.Value

-- Without its blanks the text is what writing the bytes gives, less some of the padding.
def StandsFor (text : String) (value : List UInt8) : Prop :=
  ∃ k, (encode value).toList = Base64.compact text.toList ++ List.replicate k '='

theorem decode_eq_ok {text : String} {value : List UInt8} :
    decode text = .ok value ↔ Base64.decode text.toList = some value := by
  unfold decode
  split
  · rename_i read
    rw [read,Except.ok.injEq,Option.some.injEq]
  · rename_i refused
    simp [refused]

theorem decode_refused {text : String} (refused : ∀ value, decode text ≠ .ok value) :
    decode text = .error (.range "Value" "base64 string" text) := by
  unfold decode
  split
  · rename_i value read
    exact absurd (decode_eq_ok.mpr read) (refused value)
  · rfl

theorem decode_stands {text : String} {value : List UInt8} :
    decode text = .ok value ↔ StandsFor text value := by
  rw [decode_eq_ok,Base64.decode_eq_some,StandsFor,encode,String.toList_ofList]

theorem decode_encode (value : List UInt8) : decode (encode value) = .ok value := by
  rw [decode_eq_ok,encode,String.toList_ofList,Base64.decode_encode]

theorem codec_exact :
    (∀ text value, decode text = .ok value ↔ StandsFor text value) ∧
    (∀ text, decode text = .error (.range "Value" "base64 string" text) ↔
      ∀ value, ¬StandsFor text value) ∧
    (∀ value, decode (encode value) = .ok value) ∧
    (∀ text value other, StandsFor text value → StandsFor text other → value = other) ∧
    (∀ text other value value', decode text = .ok value → decode other = .ok value' →
      (value = value' ↔ Base64.bare text.toList = Base64.bare other.toList)) := by
  refine ⟨fun _ _ => decode_stands,?_,decode_encode,?_,?_⟩
  · intro text
    constructor
    · intro refused value stands
      rw [decode_stands.mpr stands] at refused
      cases refused
    · intro none
      exact decode_refused (fun value read => none value (decode_stands.mp read))
  · intro text value other stands stands'
    have read := decode_stands.mpr stands
    rw [decode_stands.mpr stands'] at read
    exact (Except.ok.inj read).symm
  · intro text other value value' read read'
    exact Base64.decode_alike (decode_eq_ok.mp read) (decode_eq_ok.mp read')

example : decode "d GVz\ndA=" = .ok [0x74, 0x65, 0x73, 0x74] := by decide

example : decode "dGVzdB==" = .error (.range "Value" "base64 string" "dGVzdB==") := by decide

end ClusterClient.Value
