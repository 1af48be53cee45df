import ClusterClient.Peer.Lists
import ClusterClient.Proofs.Json.Outline
import ClusterClient.Proofs.Json.Printing
import ClusterClient.Proofs.Peer.Address
namespace ClusterClient.PeerListing
open Json.Reading

theorem lift_ok {x : Except Json.Fault α} {y : α} : lift x = .ok y ↔ x = .ok y := by
  cases x <;> simp [lift]

theorem refuse_ne_ok {wanted : String} {cs : List Char} {x : α} : refuse wanted cs ≠ .ok x := by
  intro got
  obtain ⟨_,_,got⟩ := bind_eq_ok.mp got
  cases got

theorem element_ok {cs rest : List Char} {peer : Peer} : element cs = .ok (peer,rest) ↔
    ∃ tail text, Json.Reader.skipSpaces cs = '"' :: tail ∧ Json.Reader.string tail = .ok (text,rest) ∧
      Peer.ofText text = .ok peer := by
  unfold element
  split
  · rename_i tail opening
    simp only [opening,List.cons.injEq,true_and]
    constructor
    · intro got
      obtain ⟨⟨text,after⟩,read,got⟩ := bind_eq_ok.mp got
      dsimp only at got
      split at got
      · cases got
        exact ⟨tail,text,rfl,lift_ok.mp read,‹_›⟩
      · cases got
    · rintro ⟨_,text,rfl,read,addressed⟩
      rw [lift_ok.mpr read,ok_bind]
      dsimp only
      rw [addressed]
      rfl
  · rename_i other
    constructor
    · exact fun got => absurd got refuse_ne_ok
    · rintro ⟨tail,_,opening,_⟩
      exact absurd opening (other tail)

theorem element_related {inner : Option (Json.Reader.Read Json)} (cs : List Char) (peer : Peer) (rest : List Char) :
    element cs = .ok (peer,rest) ↔
      ∃ v, Json.Reader.valueWith inner cs = .ok (v,rest) ∧ Peer.ofJson v = .ok peer := by
  rw [element_ok]
  constructor
  · rintro ⟨tail,text,opening,read,addressed⟩
    exact ⟨.string text,valueWith_string.mpr ⟨tail,opening,read⟩,Peer.ofJson_exact.mpr ⟨text,rfl,addressed⟩⟩
  · rintro ⟨v,got,addressed⟩
    obtain ⟨text,rfl,addressed⟩ := Peer.ofJson_exact.mp addressed
    obtain ⟨tail,opening,read⟩ := valueWith_string.mp got
    exact ⟨tail,text,opening,read,addressed⟩

theorem ofText_ok {body : String} {peers : List Peer} : ofText body = .ok peers ↔
    ∃ tail rest, Json.Reader.skipSpaces body.toList = '[' :: tail ∧
      Json.Reader.list Fault.json element tail = .ok (peers,rest) ∧ Json.Reader.finish rest = .ok () := by
  unfold ofText
  split
  · rename_i tail opening
    simp only [opening,List.cons.injEq,true_and]
    constructor
    · intro got
      obtain ⟨⟨others,rest⟩,listed,got⟩ := bind_eq_ok.mp got
      obtain ⟨_,finished,got⟩ := bind_eq_ok.mp got
      cases got
      exact ⟨tail,rest,rfl,listed,lift_ok.mp finished⟩
    · rintro ⟨_,rest,rfl,listed,finished⟩
      rw [listed,ok_bind]
      dsimp only
      rw [finished]
      rfl
  · rename_i other
    constructor
    · exact fun got => absurd got refuse_ne_ok
    · rintro ⟨tail,_,opening,_⟩
      exact absurd opening (other tail)

theorem ofText_exact {body : String} {peers : List Peer} :
    ofText body = .ok peers ↔ ∃ items, Json.parse body = .ok (.array items) ∧ Peer.Listed items peers := by
  have related : ∀ cs peer rest, element cs = .ok (peer,rest) ↔
      ∃ v, Json.Reader.value 126 cs = .ok (v,rest) ∧ Peer.ofJson v = .ok peer := element_related
  constructor
  · intro got
    obtain ⟨tail,rest,opening,listed,finished⟩ := ofText_ok.mp got
    obtain ⟨items,listed,matching⟩ := (list_related related).mp listed
    exact ⟨items,parse_array.mpr ⟨tail,rest,opening,listed,finished⟩,matching⟩
  · rintro ⟨items,parsed,matching⟩
    obtain ⟨tail,rest,opening,listed,finished⟩ := parse_array.mp parsed
    exact ofText_ok.mpr ⟨tail,rest,opening,(list_related related).mpr ⟨items,listed,matching⟩,finished⟩

theorem parse_json (peers : List Peer) : Json.parse (json peers) = .ok (.array (peers.map Peer.toJson)) := by
  have printable : Json.Printing.Printable Json.Reader.maxDepth (.array (peers.map Peer.toJson)) := by
    intro v member
    obtain ⟨peer,_,rfl⟩ := List.mem_map.mp member
    trivial
  rw [json,Json.Printing.parse_text printable,Json.Printing.settled_array]
  intro v member
  obtain ⟨peer,_,rfl⟩ := List.mem_map.mp member
  rfl

theorem listed_toJson {items : List Json} {peers : List Peer} (listed : Peer.Listed items peers) :
    Peer.Listed (peers.map Peer.toJson) peers := by
  induction listed with
  | nil => exact .nil
  | @cons item peer items peers read _ ih =>
    obtain ⟨text,_,read⟩ := Peer.ofJson_exact.mp read
    refine .cons (Peer.ofJson_exact.mpr ⟨peer.text,rfl,?_⟩) ih
    rw [Peer.ofText_text (Peer.free_of_ofText read),← (Peer.ofText_exact.mp read).1]

-- The two decoders accept the same texts and find the same peers in them, none of which leads. What
-- they find they find again in its own text.
theorem decoders_agree (body : String) :
    ((∃ peers, ofText body = .ok peers) ↔
      Json.parse body = .ok (.array []) ∨ ∃ set, PeerSet.ofText body = .ok set) ∧
    (∀ set, PeerSet.ofText body = .ok set →
      ofText body = .ok set.peers ∧ ∀ peer ∈ set.peers, peer.leader = false) ∧
    ∀ peers, ofText body = .ok peers →
      ofText (json peers) = .ok peers ∧ (peers ≠ [] → PeerSet.ofText (json peers) = .ok ⟨peers⟩) := by
  -- Both decoders come down to the addresses that the array lists; only one of them asks for any.
  refine ⟨⟨?_,?_⟩,?_,?_⟩
  · rintro ⟨peers,got⟩
    obtain ⟨items,parsed,listed⟩ := ofText_exact.mp got
    by_cases none : items = []
    · exact Or.inl (none ▸ parsed)
    · exact Or.inr ⟨⟨peers⟩,PeerSet.ofText_exact.mpr ⟨items,parsed,none,listed⟩⟩
  · rintro (parsed | ⟨set,decoded⟩)
    · exact ⟨[],ofText_exact.mpr ⟨[],parsed,.nil⟩⟩
    · obtain ⟨items,parsed,_,listed⟩ := PeerSet.ofText_exact.mp decoded
      exact ⟨set.peers,ofText_exact.mpr ⟨items,parsed,listed⟩⟩
  · intro set decoded
    obtain ⟨items,parsed,_,listed⟩ := PeerSet.ofText_exact.mp decoded
    exact ⟨ofText_exact.mpr ⟨items,parsed,listed⟩,PeerSet.decoded_unelected decoded⟩
  · intro peers got
    obtain ⟨items,_,listed⟩ := ofText_exact.mp got
    have again := listed_toJson listed
    refine ⟨ofText_exact.mpr ⟨_,parse_json peers,again⟩,fun some_peer => ?_⟩
    refine PeerSet.ofText_exact.mpr ⟨_,parse_json peers,?_,again⟩
    simpa using some_peer

end ClusterClient.PeerListing
