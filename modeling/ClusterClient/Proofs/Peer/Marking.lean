import ClusterClient.Proofs.Peer.Address
import Mathlib.Data.Nat.Find
namespace ClusterClient.PeerSet

def elect (peer : Peer) : Peer := { peer with leader := true }

-- The place of the first peer at an address. If there is none it is past the last place.
def place (set : PeerSet) (mark : Peer) : Nat := set.peers.findIdx (·.sameAddress mark)

theorem flag_eq (mark : Peer) (peers : List Peer) :
    flag mark peers = (decide (peers.findIdx (·.sameAddress mark) < peers.length),
      peers.modify (peers.findIdx (·.sameAddress mark)) elect) := by
  induction peers with
  | nil => rfl
  | cons peer rest ih =>
    rw [flag,List.findIdx_cons]
    cases peer.sameAddress mark with
    | true => simp [elect]
    | false => simp [ih]

theorem markLeader_eq (set : PeerSet) (mark : Peer) : set.markLeader mark =
    if mark.leader then
      (decide (set.place mark < set.peers.length),⟨set.peers.modify (set.place mark) elect⟩)
    else (false,set) := by
  rw [markLeader,flag_eq]
  rfl

theorem markLeader_getElem (set : PeerSet) (mark : Peer) (i : Nat) :
    (set.markLeader mark).2.peers[i]? =
      set.peers[i]?.map fun peer => if mark.leader = true ∧ set.place mark = i then elect peer else peer := by
  rw [markLeader_eq]
  by_cases elected : mark.leader
  · simp [elected,List.getElem?_modify]
  · simp [elected]

def addresses (set : PeerSet) : List (String × UInt16) := set.peers.map fun peer => (peer.host, peer.port)

theorem place_eq (set : PeerSet) (mark : Peer) :
    set.place mark = set.addresses.findIdx fun a => a.1 == mark.host && a.2 == mark.port := by
  rw [addresses,List.findIdx_map]
  rfl

@[simp] theorem addresses_markLeader (set : PeerSet) (mark : Peer) :
    (set.markLeader mark).2.addresses = set.addresses := by
  apply List.ext_getElem?
  intro i
  simp only [addresses,List.getElem?_map,markLeader_getElem,Option.map_map]
  congr 1
  funext peer
  simp only [Function.comp_apply]
  split <;> rfl

@[simp] theorem place_markLeader (set : PeerSet) (mark other : Peer) :
    (set.markLeader mark).2.place other = set.place other := by
  rw [place_eq,addresses_markLeader,← place_eq]

def markAll (set : PeerSet) (marks : List Peer) : PeerSet := marks.foldl (fun set mark => (set.markLeader mark).2) set

theorem markAll_single (set : PeerSet) (mark : Peer) : set.markAll [mark] = (set.markLeader mark).2 := rfl

def Elects (set : PeerSet) (marks : List Peer) (i : Nat) : Prop :=
  ∃ mark ∈ marks, mark.leader = true ∧ set.place mark = i

instance (set : PeerSet) (marks : List Peer) (i : Nat) : Decidable (set.Elects marks i) :=
  inferInstanceAs (Decidable (∃ mark ∈ marks, _))

theorem elects_markLeader {set : PeerSet} {mark : Peer} {marks : List Peer} {i : Nat} :
    (set.markLeader mark).2.Elects marks i ↔ set.Elects marks i := by
  simp only [Elects,place_markLeader]

theorem elects_cons {set : PeerSet} {mark : Peer} {marks : List Peer} {i : Nat} :
    set.Elects (mark :: marks) i ↔ (mark.leader = true ∧ set.place mark = i) ∨ set.Elects marks i := by
  simp [Elects]

@[simp] theorem elects_single {set : PeerSet} {mark : Peer} {i : Nat} :
    set.Elects [mark] i ↔ mark.leader = true ∧ set.place mark = i := by
  simp [Elects]

theorem markAll_getElem (set : PeerSet) (marks : List Peer) (i : Nat) :
    (set.markAll marks).peers[i]? =
      set.peers[i]?.map fun peer => if set.Elects marks i then elect peer else peer := by
  induction marks generalizing set with
  | nil => simp [markAll,Elects]
  | cons mark rest ih =>
    have step := ih (set.markLeader mark).2
    rw [markLeader_getElem,Option.map_map] at step
    refine step.trans ?_
    congr 1
    funext peer
    simp only [Function.comp_apply,elects_markLeader,elects_cons]
    by_cases here : mark.leader = true ∧ set.place mark = i
    · simp [here,elect]
    · simp [here]

@[simp] theorem addresses_markAll (set : PeerSet) (marks : List Peer) :
    (set.markAll marks).addresses = set.addresses := by
  induction marks generalizing set with
  | nil => rfl
  | cons mark rest ih => exact (ih _).trans (addresses_markLeader set mark)

@[simp] theorem length_markAll (set : PeerSet) (marks : List Peer) :
    (set.markAll marks).peers.length = set.peers.length := by
  simpa [addresses] using congrArg List.length (addresses_markAll set marks)

theorem countP_le_one {p : α → Bool} {xs : List α} :
    xs.countP p ≤ 1 ↔ xs.Pairwise fun x y => ¬(p x = true ∧ p y = true) := by
  induction xs with
  | nil => simp
  | cons x rest ih =>
    rw [List.countP_cons,List.pairwise_cons,← ih]
    by_cases here : p x = true
    · simp only [here,true_and,if_true]
      rw [← List.countP_eq_zero]
      omega
    · simp [here]

section
variable {body : String} {set : PeerSet} {marks : List Peer}

theorem flagged_marked (decoded : ofText body = .ok set) (marks : List Peer) (i : Nat) :
    (set.markAll marks).peers[i]? =
      set.peers[i]?.map fun peer => { peer with leader := decide (set.Elects marks i) } := by
  rw [markAll_getElem]
  cases here : set.peers[i]? with
  | none => rfl
  | some peer =>
    have unelected := decoded_unelected decoded peer (List.mem_of_getElem? here)
    by_cases elected : set.Elects marks i
    · simp [elected,elect]
    · simp [elected,← unelected]

theorem leader_marked (decoded : ofText body = .ok set) {i : Nat} (inside : i < (set.markAll marks).peers.length) :
    (set.markAll marks).peers[i].leader = decide (set.Elects marks i) := by
  have flagged := flagged_marked decoded marks i
  rw [List.getElem?_eq_getElem inside] at flagged
  obtain ⟨peer,_,same⟩ := Option.map_eq_some_iff.mp flagged.symm
  rw [← same]

theorem leader?_marked (decoded : ofText body = .ok set) {i : Nat} {peer : Peer} (here : set.peers[i]? = some peer)
    (elected : set.Elects marks i) (first : ∀ j < i, ¬set.Elects marks j) :
    (set.markAll marks).leader? = some (elect peer) := by
  have found := flagged_marked decoded marks i
  simp only [here,elected,decide_true,Option.map_some] at found
  obtain ⟨inside,same⟩ := List.getElem?_eq_some_iff.mp found
  refine List.find?_eq_some_iff_getElem.mpr ⟨rfl,i,inside,same,?_⟩
  intro j before
  simp [leader_marked decoded,first j before]

theorem single_marked (decoded : ofText body = .ok set) (marks : List Peer) :
    (set.markAll marks).peers.countP (·.leader) ≤ 1 ↔
      ∀ i j, i < j → j < set.peers.length → ¬(set.Elects marks i ∧ set.Elects marks j) := by
  rw [countP_le_one,List.pairwise_iff_getElem]
  simp only [leader_marked decoded,length_markAll,decide_eq_true_eq]
  constructor
  · intro apart i j before inside
    exact apart i j (before.trans inside) inside before
  · intro apart i j _ inside before
    exact apart i j before inside

theorem markLeader_after (set : PeerSet) (marks : List Peer) (mark : Peer) :
    ((set.markAll marks).markLeader mark).2 = set.markAll (marks ++ [mark]) := by
  simp [markAll]

theorem elects_append {i : Nat} {mark : Peer} : set.Elects (marks ++ [mark]) i ↔
    set.Elects marks i ∨ (mark.leader = true ∧ set.place mark = i) := by
  simp [Elects,or_and_right,exists_or]

@[simp] theorem place_markAll (set : PeerSet) (marks : List Peer) (mark : Peer) :
    (set.markAll marks).place mark = set.place mark := by
  rw [place_eq,addresses_markAll,← place_eq]

theorem markLeader_true {mark : Peer} : (set.markLeader mark).1 = true ↔
    mark.leader = true ∧ set.place mark < set.peers.length := by
  rw [markLeader_eq]
  cases mark.leader <;> simp

theorem sameAddress_place {mark peer : Peer} {i : Nat} (here : set.peers[i]? = some peer)
    (first : i ≤ set.place mark) : peer.sameAddress mark = true ↔ set.place mark = i := by
  obtain ⟨inside,rfl⟩ := List.getElem?_eq_some_iff.mp here
  constructor
  · intro same
    apply Nat.le_antisymm _ first
    apply Nat.le_of_not_lt
    intro before
    exact Bool.false_ne_true ((List.not_of_lt_findIdx before).symm.trans same)
  · rintro rfl
    have found : set.peers.findIdx (·.sameAddress mark) < set.peers.length := inside
    exact List.findIdx_getElem (w := found)

-- Marks stay, so a peer that is marked leads only if none before it has been.
theorem marks_stay (decoded : ofText body = .ok set) (marks : List Peer) :
    let marked := set.markAll marks
    (∀ i : Nat, marked.peers[i]? =
      set.peers[i]?.map fun peer : Peer => { peer with leader := decide (set.Elects marks i) }) ∧
    (marked.peers.countP (·.leader) ≤ 1 ↔
      ∀ i j, i < j → j < set.peers.length → ¬(set.Elects marks i ∧ set.Elects marks j)) ∧
    ∀ mark, (marked.markLeader mark).1 = true →
      ∃ leader, (marked.markLeader mark).2.leader? = some leader ∧
        (leader.sameAddress mark = true ↔ ∀ i < set.place mark, ¬set.Elects marks i) := by
  refine ⟨flagged_marked decoded marks,single_marked decoded marks,?_⟩
  intro mark found
  obtain ⟨elected,inside⟩ := markLeader_true.mp found
  rw [place_markAll,length_markAll] at inside
  have some_place : ∃ i, set.Elects (marks ++ [mark]) i := ⟨_,elects_append.mpr (Or.inr ⟨elected,rfl⟩)⟩
  -- The mark counts, so it or an earlier one goes to a place no further back.
  have earliest : Nat.find some_place ≤ set.place mark :=
    Nat.find_min' _ (elects_append.mpr (Or.inr ⟨elected,rfl⟩))
  obtain ⟨peer,here⟩ : ∃ peer, set.peers[Nat.find some_place]? = some peer :=
    ⟨_,List.getElem?_eq_getElem (earliest.trans_lt inside)⟩
  refine ⟨elect peer,?_,?_⟩
  · rw [markLeader_after]
    exact leader?_marked decoded here (Nat.find_spec some_place) fun j before => Nat.find_min some_place before
  · change peer.sameAddress mark = true ↔ _
    rw [sameAddress_place here earliest]
    constructor
    · intro same i before marked
      rw [same] at before
      exact Nat.find_min some_place before (elects_append.mpr (Or.inl marked))
    · intro none
      rcases elects_append.mp (Nat.find_spec some_place) with marked | ⟨_,same⟩
      · exact Nat.le_antisymm (Nat.le_of_not_lt fun before => none _ before marked) earliest
      · exact same

theorem marks_stay_behind :
    let set : PeerSet := ⟨[⟨"a",1,false⟩, ⟨"b",2,false⟩]⟩
    let marked := set.markAll [⟨"a",1,true⟩]
    ∃ leader, (marked.markLeader ⟨"b",2,true⟩).2.leader? = some leader ∧
      leader.sameAddress ⟨"b",2,true⟩ = false := by
  intro set marked
  have decoded : ofText "[\"a:1\",\"b:2\"]" = .ok set := by decide +kernel
  obtain ⟨leader,told,same⟩ := (marks_stay decoded [⟨"a",1,true⟩]).2.2 ⟨"b",2,true⟩ (by decide +kernel)
  refine ⟨leader,told,Bool.eq_false_iff.mpr fun led => ?_⟩
  exact same.mp led 0 (by decide +kernel) (by decide +kernel)

-- Both peers of a pair are flagged in the end, and the one marked last is not the one that leads.
theorem marks_pile_up :
    let set : PeerSet := ⟨[⟨"a",1,false⟩, ⟨"b",2,false⟩]⟩
    let marked := (set.markAll [⟨"a",1,true⟩]).markLeader ⟨"b",2,true⟩
    ofText "[\"a:1\",\"b:2\"]" = .ok set ∧ marked.1 = true ∧ marked.2.peers.countP (·.leader) = 2 ∧
      marked.2.leader? = some ⟨"a",1,true⟩ := by
  decide +kernel

end

section
variable {set : PeerSet} {mark : Peer}

theorem place_inside : set.place mark < set.peers.length ↔
    ∃ peer ∈ set.peers, peer.host = mark.host ∧ peer.port = mark.port := by
  rw [place,List.findIdx_lt_length]
  simp only [Peer.sameAddress_iff]

theorem markLeader_answer : (set.markLeader mark).1 = true ↔
    mark.leader = true ∧ ∃ peer ∈ set.peers, peer.host = mark.host ∧ peer.port = mark.port := by
  rw [markLeader_true,place_inside]

theorem markLeader_missed (missed : (set.markLeader mark).1 = false) : (set.markLeader mark).2 = set := by
  rw [markLeader_eq] at missed ⊢
  cases elected : mark.leader with
  | false => simp
  | true =>
    simp only [elected,if_true,decide_eq_false_iff_not] at missed ⊢
    rw [List.modify_eq_self (Nat.le_of_not_lt missed)]

-- A flag that was there stays, and the one place where a flag may appear is that of the mark.
theorem markLeader_flags {i : Nat} {before after : Peer} (here : set.peers[i]? = some before)
    (later : (set.markLeader mark).2.peers[i]? = some after) :
    (before.leader = true → after.leader = true) ∧
      (before.leader ≠ after.leader → mark.leader = true ∧ set.place mark = i) := by
  rw [markLeader_getElem,here,Option.map_some,Option.some.injEq] at later
  subst later
  by_cases marks : mark.leader = true ∧ set.place mark = i
  · simp [marks,elect]
  · simp [marks]

theorem markLeader_flagged (found : (set.markLeader mark).1 = true) :
    ∃ peer, (set.markLeader mark).2.peers[set.place mark]? = some peer ∧ peer.leader = true := by
  obtain ⟨elected,inside⟩ := markLeader_true.mp found
  refine ⟨elect set.peers[set.place mark],?_,rfl⟩
  rw [markLeader_getElem,List.getElem?_eq_getElem inside]
  simp [elected]

theorem markLeader_again : (set.markLeader mark).2.markLeader mark = set.markLeader mark := by
  have length : (set.markLeader mark).2.peers.length = set.peers.length := length_markAll set [mark]
  have answer : ((set.markLeader mark).2.markLeader mark).1 = (set.markLeader mark).1 := by
    rw [Bool.eq_iff_iff,markLeader_true,markLeader_true,place_markLeader,length]
  have peers : ((set.markLeader mark).2.markLeader mark).2 = (set.markLeader mark).2 := by
    have flat : ∀ i : Nat,
        ((set.markLeader mark).2.markLeader mark).2.peers[i]? = (set.markLeader mark).2.peers[i]? := by
      intro i
      rw [markLeader_getElem,place_markLeader,markLeader_getElem,Option.map_map]
      congr 1
      funext peer
      simp only [Function.comp_apply]
      split <;> rfl
    exact congrArg PeerSet.mk (List.ext_getElem? flat)
  exact Prod.ext answer peers

end

-- Of the peers of a reply marks change flags only, and each of them only the flag that it is about.
theorem marks_frame {body : String} {set : PeerSet} (decoded : ofText body = .ok set) (marks : List Peer)
    (mark : Peer) :
    let marked := set.markAll marks
    let answer := marked.markLeader mark
    marked.peers ≠ [] ∧ marked.addresses = set.addresses ∧ answer.2.addresses = set.addresses ∧
    (answer.1 = true ↔
      mark.leader = true ∧ ∃ peer ∈ marked.peers, peer.host = mark.host ∧ peer.port = mark.port) ∧
    (answer.1 = false → answer.2 = marked) ∧
    (answer.1 = true → ∃ peer, answer.2.peers[marked.place mark]? = some peer ∧ peer.leader = true) ∧
    (∀ (i : Nat) before after, marked.peers[i]? = some before → answer.2.peers[i]? = some after →
      (before.leader = true → after.leader = true) ∧
      (before.leader ≠ after.leader → answer.1 = true ∧ marked.place mark = i)) ∧
    answer.2.markLeader mark = answer := by
  intro marked answer
  -- No mark adds a peer or takes one away, so the reply decides.
  have some_peer : marked.peers ≠ [] := by
    obtain ⟨items,_,listed,matching⟩ := ofText_exact.mp decoded
    rw [← List.length_pos_iff,length_markAll,← matching.length_eq]
    exact List.length_pos_iff.mpr listed
  refine ⟨some_peer,addresses_markAll set marks,?_,markLeader_answer,markLeader_missed,markLeader_flagged,?_,
    markLeader_again⟩
  · exact (addresses_markLeader marked mark).trans (addresses_markAll set marks)
  · intro i before after here later
    obtain ⟨kept,changed⟩ := markLeader_flags here later
    refine ⟨kept,fun differs => ?_⟩
    obtain ⟨elected,place⟩ := changed differs
    obtain ⟨inside,_⟩ := List.getElem?_eq_some_iff.mp here
    exact ⟨markLeader_true.mpr ⟨elected,place ▸ inside⟩,place⟩

theorem marks_frame_doubled :
    let set : PeerSet := ⟨[⟨"a",1,false⟩, ⟨"b",2,false⟩, ⟨"b",2,false⟩]⟩
    let marked := set.markAll [⟨"a",1,true⟩]
    let answer := marked.markLeader ⟨"b",2,true⟩
    ofText "[\"a:1\",\"b:2\",\"b:::+02\"]" = .ok set ∧ answer.1 = true ∧
      answer.2.markLeader ⟨"b",2,true⟩ = answer ∧
      ∀ peer, answer.2.peers[2]? = some peer → peer.leader = false := by
  intro set marked answer
  have decoded : ofText "[\"a:1\",\"b:2\",\"b:::+02\"]" = .ok set := by decide +kernel
  obtain ⟨_,_,_,answers,_,_,flags,again⟩ := marks_frame decoded [⟨"a",1,true⟩] ⟨"b",2,true⟩
  refine ⟨decoded,answers.mpr ⟨rfl,⟨"b",2,false⟩,by decide +kernel,rfl,rfl⟩,again,?_⟩
  intro peer here
  have third : marked.peers[2]? = some ⟨"b",2,false⟩ := by decide +kernel
  by_contra led
  have place := ((flags 2 _ peer third here).2 (by simpa using led)).2
  exact absurd place (by decide +kernel)

end ClusterClient.PeerSet
