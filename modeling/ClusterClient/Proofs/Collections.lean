import ClusterClient.Proofs.Entry.Strict
import ClusterClient.Proofs.Peer.Address
namespace ClusterClient

theorem Entry.ofJson_bare {policy : MissingFields} {v : Json} {failure : Failure}
    (refused : ofJson policy v = .error failure) : failure.Bare := by
  obtain ⟨_,_,_,_,_,said⟩ := ofJson_error.mp refused
  cases said <;> simp [Failure.Bare]

theorem Peer.ofJson_bare {v : Json} {failure : Failure} (refused : ofJson v = .error failure) : failure.Bare := by
  cases v with
  | string text => rcases ofText_error.mp refused with ⟨_,_,_,_,rfl⟩ | ⟨_,_,_,_,_,rfl⟩ <;> simp [Failure.Bare]
  | _ =>
    cases refused
    simp [Failure.Bare]

theorem Batch.allOrNothing (policy : MissingFields) :
    AllOrNothing context (fun _ => True) (Entry.ofJson policy) (ofText policy) entries := by
  refine .of_decodeAll (fun xs => ⟨⟨xs⟩,rfl⟩) ?_ (fun _ _ _ parsed => (ofText_array parsed).mpr) (fun _ _ => Entry.ofJson_bare)
  intro text batch
  simp [ofText_eq_ok,decodeAll_eq_ok]

theorem PeerSet.allOrNothing : AllOrNothing context (· ≠ []) Peer.ofJson ofText peers := by
  refine .of_decodeAll (fun xs => ⟨⟨xs⟩,rfl⟩) ?_ ?_ (fun _ _ => Peer.ofJson_bare)
  · intro text set
    simp [ofText_exact,decodeAll_eq_ok,Peer.Listed]
  · intro text items failure parsed refused
    cases items with
    | nil => cases refused
    | cons item rest => simp [ofText,Json.ofText,parsed,ofJson,refused]

-- Entries and addresses are read all or not at all, the entries under either policy. An empty list
-- of addresses is refused, one of entries is not.
theorem elements_all_or_nothing :
    (∀ policy, AllOrNothing Batch.context (fun _ => True) (Entry.ofJson policy) (Batch.ofText policy) Batch.entries) ∧
    AllOrNothing PeerSet.context (· ≠ []) Peer.ofJson PeerSet.ofText PeerSet.peers :=
  ⟨Batch.allOrNothing,PeerSet.allOrNothing⟩

-- Two elements are bad, and the port is refused before the number is looked at.
example : PeerSet.ofText "[\"a:1\",\"b:x\",3]" =
    .error (.within PeerSet.context (.format (.portRefusedIn "x" "b:x"))) := by decide +kernel

end ClusterClient
