import ClusterClient.Peer.Lists
import ClusterClient.Proofs.Decimal
import ClusterClient.Proofs.Elements
import ClusterClient.Proofs.Json.Printing
import ClusterClient.Proofs.Peer.Pieces
namespace ClusterClient.Peer

def Addressed (peer : Peer) (text : String) : Prop :=
  ∃ more digits, text.toList = peer.host.toList ++ ':' :: (List.replicate more ':' ++ digits) ∧
    ':' ∉ peer.host.toList ∧ Decimal.Spells digits peer.port.toNat

theorem not_mem_of_spells {digits : List Char} {n : Nat} (spelled : Decimal.Spells digits n) : ':' ∉ digits := by
  obtain ⟨ds,_,_,rfl | rfl⟩ := spelled
  · exact fun member => Decimal.digit?_of_mem member (by decide)
  · intro member
    rcases List.mem_cons.mp member with plus | later
    · cases plus
    · exact Decimal.digit?_of_mem later (by decide)

-- With one run of colons the rest hangs on the numeral, and with none or several nothing is read.
theorem ofText_pair {text : String} {host digits : List Char} {more : Nat} (cut : CutAt text host [(more,digits)]) :
    ofText text = (Decimal.word16? (String.ofList digits)).elim
      (.error (.format (.portRefusedIn (String.ofList digits) text)))
      (fun port => .ok { host := String.ofList host, port }) := by
  simp only [ofText,pieces_cut cut,List.map_cons,List.map_nil]
  cases Decimal.word16? (String.ofList digits) <;> rfl

theorem ofText_several {text : String} {first : List Char} {parts : List Part} (cut : CutAt text first parts)
    (several : parts.length ≠ 1) : ofText text = .error (.format (.notAnAddress text)) := by
  unfold ofText
  rw [pieces_cut cut]
  split
  · rename_i pair
    have lengths := congrArg List.length pair
    simp at lengths
    exact absurd lengths several
  · rfl

theorem ofText_exact {text : String} {peer : Peer} :
    ofText text = .ok peer ↔ peer.leader = false ∧ peer.Addressed text := by
  constructor
  · intro read
    obtain ⟨host,parts,cut⟩ := cut_exists text
    by_cases single : parts.length = 1
    · obtain ⟨⟨more,digits⟩,rfl⟩ := List.length_eq_one_iff.mp single
      obtain ⟨whole,free,_⟩ := cut_pair.mp cut
      rw [ofText_pair cut] at read
      cases port : Decimal.word16? (String.ofList digits) with
      | none => simp [port] at read
      | some n =>
        simp only [port,Option.elim_some,Except.ok.injEq] at read
        subst read
        have spelled := Decimal.word16?_exact.mp port
        exact ⟨rfl,more,digits,by simpa using whole,by simpa using free,by simpa using spelled⟩
    · simp [ofText_several cut single] at read
  · rintro ⟨unelected,more,digits,whole,free,spelled⟩
    have port : Decimal.word16? (String.ofList digits) = some peer.port := by simpa [Decimal.word16?_exact] using spelled
    rw [ofText_pair (cut_pair.mpr ⟨whole,free,not_mem_of_spells spelled⟩),port]
    obtain ⟨host,port,leader⟩ := peer
    cases unelected
    simp

theorem ofText_error {text : String} {failure : Failure} : ofText text = .error failure ↔
    (∃ first parts, CutAt text first parts ∧ parts.length ≠ 1 ∧ failure = .format (.notAnAddress text)) ∨
    ∃ host more digits, CutAt text host [(more,digits)] ∧ (∀ n ≤ 65535, ¬Decimal.Spells digits n) ∧
      failure = .format (.portRefusedIn (String.ofList digits) text) := by
  have port : ∀ digits, Decimal.word16? (String.ofList digits) = none ↔ ∀ n ≤ 65535, ¬Decimal.Spells digits n := by
    intro digits
    simp [Decimal.word16?_none]
  constructor
  -- The cut exists for every text, so the cases are the number of its runs.
  · intro refused
    obtain ⟨host,parts,cut⟩ := cut_exists text
    by_cases single : parts.length = 1
    · obtain ⟨⟨more,digits⟩,rfl⟩ := List.length_eq_one_iff.mp single
      rw [ofText_pair cut] at refused
      cases word : Decimal.word16? (String.ofList digits) with
      | some n => simp [word] at refused
      | none =>
        simp only [word,Option.elim_none,Except.error.injEq] at refused
        exact Or.inr ⟨host,more,digits,cut,(port digits).mp word,refused.symm⟩
    · rw [ofText_several cut single] at refused
      exact Or.inl ⟨host,parts,cut,single,(Except.error.inj refused).symm⟩
  · rintro (⟨first,parts,cut,several,rfl⟩ | ⟨host,more,digits,cut,none,rfl⟩)
    · exact ofText_several cut several
    · simp [ofText_pair cut,(port digits).mpr none]

def Quotes (message text : String) : Prop := ∃ front back, message = front ++ "\"" ++ text ++ "\"" ++ back

theorem ofText_quotes {text : String} {failure : Failure} (refused : ofText text = .error failure) :
    failure.kind = .format ∧ Quotes failure.message text := by
  rcases ofText_error.mp refused with ⟨_,_,_,_,rfl⟩ | ⟨_,_,digits,_,_,rfl⟩
  · refine ⟨rfl,"Expected a host:port pattern from string ","",?_⟩
    have opening : "Expected a host:port pattern from string \"" = "Expected a host:port pattern from string " ++ "\"" := by
      decide
    rw [String.append_empty,← opening]
    rfl
  · refine ⟨rfl,"Failed to set port: " ++ String.ofList digits ++ " (from string ",")",?_⟩
    have opening : " (from string \"" = " (from string " ++ "\"" := by decide
    have closing : "\")" = "\"" ++ ")" := by decide
    change "Failed to set port: " ++ String.ofList digits ++ " (from string \"" ++ text ++ "\")" = _
    rw [opening,closing]
    simp only [String.append_assoc]

-- Every text has one cut at its runs of colons. It is an address if there is one run and a port
-- behind it, and any other text is refused by one of two messages, which hold it as it is.
theorem address_grammar (text : String) :
    (∃ first parts, CutAt text first parts) ∧
    (∀ first parts, CutAt text first parts → pieces text = first :: parts.map (·.2)) ∧
    (∀ peer, ofText text = .ok peer ↔ ∃ host more digits n,
      text.toList = host ++ ':' :: (List.replicate more ':' ++ digits) ∧ ':' ∉ host ∧ ':' ∉ digits ∧
        Decimal.Spells digits n ∧ n ≤ 65535 ∧
        peer = { host := String.ofList host, port := UInt16.ofNat n, leader := false }) ∧
    (∀ failure, ofText text = .error failure ↔
      (∃ first parts, CutAt text first parts ∧ parts.length ≠ 1 ∧ failure = .format (.notAnAddress text)) ∨
      ∃ host more digits, CutAt text host [(more,digits)] ∧ (∀ n ≤ 65535, ¬Decimal.Spells digits n) ∧
        failure = .format (.portRefusedIn (String.ofList digits) text)) ∧
    ((∃ peer, ofText text = .ok peer) ∨
      ∃ failure, ofText text = .error failure ∧ failure.kind = .format ∧ Quotes failure.message text) := by
  refine ⟨cut_exists text,fun _ _ => pieces_cut,?_,fun _ => ofText_error,?_⟩
  · intro peer
    rw [ofText_exact]
    constructor
    · rintro ⟨unelected,more,digits,whole,free,spelled⟩
      refine ⟨peer.host.toList,more,digits,peer.port.toNat,whole,free,not_mem_of_spells spelled,spelled,
        Nat.le_of_lt_succ peer.port.toNat_lt,?_⟩
      simp [← unelected]
    · rintro ⟨host,more,digits,n,whole,free,_,spelled,small,rfl⟩
      have port : (UInt16.ofNat n).toNat = n := UInt16.toNat_ofNat_of_lt' (Nat.lt_succ_of_le small)
      exact ⟨rfl,more,digits,by simpa using whole,by simpa using free,by simpa [port] using spelled⟩
  · cases read : ofText text with
    | ok peer => exact Or.inl ⟨peer,rfl⟩
    | error failure => exact Or.inr ⟨failure,rfl,ofText_quotes read⟩

-- Colons that lead are a run like any other, so this host is empty and its port is missing.
example : ofText "::" = .error (.format (.portRefusedIn "" "::")) := by decide

theorem text_toList (peer : Peer) :
    peer.text.toList = peer.host.toList ++ ':' :: Decimal.chars (Decimal.ofNat peer.port.toNat) := by
  simp [text,portText,Agent.portText,Decimal.text]

theorem addressed_text {peer : Peer} (free : ':' ∉ peer.host.toList) : peer.Addressed peer.text :=
  ⟨0,_,text_toList peer,free,Decimal.spells_ofNat peer.port.toNat⟩

theorem ofText_text {peer : Peer} (free : ':' ∉ peer.host.toList) :
    ofText peer.text = .ok { peer with leader := false } :=
  ofText_exact.mpr ⟨rfl,addressed_text free⟩

theorem free_of_ofText {text : String} {peer : Peer} (read : ofText text = .ok peer) : ':' ∉ peer.host.toList := by
  obtain ⟨_,_,_,_,free,_⟩ := ofText_exact.mp read
  exact free

theorem sameAddress_iff {a b : Peer} : a.sameAddress b = true ↔ a.host = b.host ∧ a.port = b.port := by
  simp [sameAddress]

theorem text_inj {a b : Peer} (free : ':' ∉ a.host.toList) (freeOther : ':' ∉ b.host.toList) :
    a.text = b.text ↔ a.sameAddress b = true := by
  rw [sameAddress_iff]
  constructor
  · intro same
    have read := ofText_text free
    rw [same,ofText_text freeOther] at read
    injection read with equal
    injection equal with host port
    exact ⟨host.symm,port.symm⟩
  · rintro ⟨host,port⟩
    rw [text,text,host,portText,portText,port]

theorem ofJson_exact {v : Json} {peer : Peer} :
    ofJson v = .ok peer ↔ ∃ text, v = .string text ∧ ofText text = .ok peer := by
  cases v <;> simp [ofJson]

def Listed (items : List Json) (peers : List Peer) : Prop :=
  List.Forall₂ (fun item peer => ofJson item = .ok peer) items peers

theorem Listed.address {items : List Json} {peers : List Peer} (listed : Listed items peers) :
    ∀ peer ∈ peers, ∃ text, ofText text = .ok peer := by
  induction listed with
  | nil => exact List.forall_mem_nil _
  | cons read _ ih =>
    obtain ⟨text,_,read⟩ := ofJson_exact.mp read
    exact List.forall_mem_cons.mpr ⟨⟨text,read⟩,ih⟩

end ClusterClient.Peer

namespace ClusterClient.PeerSet
variable {body : String} {set : PeerSet}

theorem ofJson_exact {v : Json} :
    ofJson v = .ok set ↔ ∃ items, v = .array items ∧ items ≠ [] ∧ Peer.Listed items set.peers := by
  cases v with
  | array items =>
    cases items with
    | nil => simp [ofJson]
    | cons item rest =>
      have listed : decodeAll context Peer.ofJson (item :: rest) = .ok set.peers ↔
        Peer.Listed (item :: rest) set.peers := decodeAll_eq_ok
      obtain ⟨peers⟩ := set
      simp only [ofJson,Json.array.injEq,exists_eq_left',ne_eq,reduceCtorEq,not_false_eq_true,true_and,← listed]
      cases decodeAll context Peer.ofJson (item :: rest) <;> simp
  | _ => simp [ofJson]

theorem ofText_exact : ofText body = .ok set ↔
    ∃ items, Json.parse body = .ok (.array items) ∧ items ≠ [] ∧ Peer.Listed items set.peers := by
  rw [ofText,Json.ofText]
  cases Json.parse body with
  | error fault => simp
  | ok v => simp [ofJson_exact]

theorem decoded_address (decoded : ofText body = .ok set) :
    ∀ peer ∈ set.peers, ∃ text, Peer.ofText text = .ok peer := by
  obtain ⟨items,_,_,listed⟩ := ofText_exact.mp decoded
  exact listed.address

theorem decoded_unelected (decoded : ofText body = .ok set) : ∀ peer ∈ set.peers, peer.leader = false := by
  intro peer member
  obtain ⟨text,read⟩ := decoded_address decoded peer member
  exact (Peer.ofText_exact.mp read).1

theorem decoded_free (decoded : ofText body = .ok set) : ∀ peer ∈ set.peers, ':' ∉ peer.host.toList := by
  intro peer member
  obtain ⟨text,read⟩ := decoded_address decoded peer member
  exact Peer.free_of_ofText read

end ClusterClient.PeerSet

namespace ClusterClient.Peer
variable {peer found : Peer}

theorem ofText_text_exact : ofText peer.text = .ok found ↔
    found.leader = false ∧ found.port = peer.port ∧ ':' ∉ found.host.toList ∧
      ∃ more, peer.host.toList = found.host.toList ++ List.replicate more ':' := by
  have numeral := Decimal.spells_ofNat peer.port.toNat
  have moved : ∀ more (digits : List Char), found.host.toList ++ ':' :: (List.replicate more ':' ++ digits) =
      (found.host.toList ++ List.replicate more ':') ++ ':' :: digits := by
    intro more digits
    rw [← List.cons_append,← List.replicate_succ,List.replicate_succ']
    simp
  rw [ofText_exact]
  constructor
  · rintro ⟨unelected,more,digits,whole,free,spelled⟩
    rw [text_toList,moved,Text.last_cut_unique (not_mem_of_spells numeral) (not_mem_of_spells spelled)] at whole
    obtain ⟨host,rfl⟩ := whole
    exact ⟨unelected,UInt16.toNat_inj.mp (spelled.unique numeral),free,more,host⟩
  · rintro ⟨unelected,port,free,more,host⟩
    refine ⟨unelected,more,_,?_,free,by rw [port]; exact numeral⟩
    rw [text_toList,moved,host]

theorem text_ne_empty (peer : Peer) : peer.text ≠ "" := by
  intro empty
  have listed := text_toList peer
  simp [empty] at listed

theorem parse_json (peer : Peer) : Json.parse peer.json = .ok peer.toJson :=
  Json.Printing.parse_text (by simp [toJson,Json.Printing.Printable])

-- Written and read again a peer is the same only if its host is free of colons, and then in every
-- form that it is written in. What was read is free of them, so its text stands for it from then on.
theorem rendering_inverts :
    (∀ peer : Peer, (∃ found, ofText peer.text = .ok found ∧ found.sameAddress peer = true) ↔ ':' ∉ peer.host.toList) ∧
    (∀ peer found : Peer, ofText peer.text = .ok found ↔
      found.leader = false ∧ found.port = peer.port ∧ ':' ∉ found.host.toList ∧
        ∃ more, peer.host.toList = found.host.toList ++ List.replicate more ':') ∧
    (∀ peer : Peer, ':' ∉ peer.host.toList → leaderOfText peer.json = .ok { peer with leader := true } ∧
      ofJson peer.toJson = .ok { peer with leader := false }) ∧
    (∀ text found, ofText text = .ok found → ∃ again, ofText found.text = .ok again ∧
      again.host = found.host ∧ again.port = found.port ∧ again.text = found.text) := by
  refine ⟨?_,fun _ _ => ofText_text_exact,?_,?_⟩
  · intro peer
    constructor
    · rintro ⟨found,read,same⟩
      -- What was read has no colon in its host, so neither has a peer at the same address.
      rw [← (sameAddress_iff.mp same).1]
      exact free_of_ofText read
    · intro free
      exact ⟨_,ofText_text free,sameAddress_iff.mpr ⟨rfl,rfl⟩⟩
  · intro peer free
    constructor
    · simp [leaderOfText,Json.ofText,parse_json,toJson,leaderOfJson,text_ne_empty,ofText_text free]
    · simp [toJson,ofJson,ofText_text free]
  · intro text found read
    exact ⟨_,ofText_text (free_of_ofText read),rfl,rfl,rfl⟩

-- A colon at the end of the host is lost, and one inside it makes a text that is no address.
example : ofText (text { host := "a:", port := 80 }) = .ok { host := "a", port := 80 } ∧
    ofText (text { host := "a:b", port := 80 }) = .error (.format (.notAnAddress "a:b:80")) := by decide +kernel

end ClusterClient.Peer
