import MiniVllm.EngineProofs.Effect
import MiniVllm.EngineProofs.Writes

/-! What has been written into the block of a position since that block was last allocated. -/

namespace MiniVllm

open EngineCore ModelInputBuilder

variable {ε : Type}

def CacheEvent.writes (slot position : ℕ) (context : List ℕ) : CacheEvent → Bool
  | .allocated .. => false
  | .wrote s _ r tokens => s == slot && r == position && tokens == context

namespace BlockManager

def sinceAllocated (bm : BlockManager ε) (p : ℕ) : List CacheEvent :=
  bm.history.takeWhile (fun
    | .allocated block _ _ => block ≠ p
    | .wrote .. => true)

lemma sinceAllocated_congr {bm bm' : BlockManager ε} (h : bm'.history = bm.history) (p : ℕ) :
    bm'.sinceAllocated p = bm.sinceAllocated p := by
  rw [sinceAllocated, h, sinceAllocated]

lemma mem_sinceAllocated_cons {bm bm' : BlockManager ε} {r : ℕ} {sid : SeqId} {hash : Option ℤ}
    (h : bm'.history = .allocated r sid hash :: bm.history) {p : ℕ} (hp : r ≠ p) {e : CacheEvent}
    (he : e ∈ bm.sinceAllocated p) : e ∈ bm'.sinceAllocated p := by
  rw [sinceAllocated, h, List.takeWhile_cons_of_pos (by simpa using hp)]
  exact List.mem_cons_of_mem _ he

lemma mem_sinceAllocated_record (bm : BlockManager ε) {events : List CacheEvent}
    (h : ∀ e ∈ events, ∃ slot sid position context, e = .wrote slot sid position context) {p : ℕ} {e : CacheEvent}
    (he : e ∈ events ∨ e ∈ bm.sinceAllocated p) : e ∈ (bm.record events).sinceAllocated p := by
  have hall : ∀ e ∈ events, (fun
      | CacheEvent.allocated block _ _ => decide (block ≠ p)
      | .wrote .. => true) e = true := by
    intro e he
    obtain ⟨slot, sid, position, context, rfl⟩ := h e he
    rfl
  rw [sinceAllocated, record_history, List.takeWhile_append_of_pos hall]
  exact List.mem_append.mpr he

end BlockManager

lemma kvWrites_wrote (seqs : List Sequence) (input : ModelInput) :
    ∀ e ∈ kvWrites seqs input, ∃ slot sid position context, e = .wrote slot sid position context := by
  intro e he
  obtain ⟨w, -, rfl⟩ := List.mem_map.mp he
  exact ⟨_, _, _, _, rfl⟩

section Written

variable (config : Config) (bm : BlockManager ε) (q : Sequence) (r : ℕ)

/-- The KV of position `r` of `q` lies in its slot: it was written there, from the same tokens, since the block
was last allocated. -/
def Written : Prop :=
  ∃ e ∈ bm.sinceAllocated ((bm.getBlockTable q.seqId).getD (r / config.blockSize) 0),
    e.writes (slotOf config bm q.seqId r) r (q.tokens.take (r + 1))

instance : Decidable (Written config bm q r) := inferInstanceAs (Decidable (∃ e ∈ _, _))

variable {config bm q r}

lemma slotOf_of_block {bm' : BlockManager ε} {sid sid' : SeqId}
    (h : (bm'.getBlockTable sid')[r / config.blockSize]? = (bm.getBlockTable sid)[r / config.blockSize]?) :
    (bm'.getBlockTable sid').getD (r / config.blockSize) 0 = (bm.getBlockTable sid).getD (r / config.blockSize) 0 ∧
      slotOf config bm' sid' r = slotOf config bm sid r := by
  simp only [slotOf, List.getD_eq_getElem?_getD, h, and_self]

lemma Written.mono {bm' : BlockManager ε} {q' : Sequence} (h : Written config bm q r)
    (hblock : (bm'.getBlockTable q'.seqId)[r / config.blockSize]? =
      (bm.getBlockTable q.seqId)[r / config.blockSize]?)
    (htokens : q'.tokens.take (r + 1) = q.tokens.take (r + 1))
    (hkept : ∀ e ∈ bm.sinceAllocated ((bm.getBlockTable q.seqId).getD (r / config.blockSize) 0),
      e ∈ bm'.sinceAllocated ((bm.getBlockTable q.seqId).getD (r / config.blockSize) 0)) :
    Written config bm' q' r := by
  obtain ⟨e, he, hw⟩ := h
  obtain ⟨hp, hs⟩ := slotOf_of_block hblock
  exact ⟨e, by rw [hp]; exact hkept e he, by rwa [hs, htokens]⟩

lemma Written.of_event {v : SeqId} {context : List ℕ}
    (he : .wrote (slotOf config bm q.seqId r : ℤ) v r context ∈
      bm.sinceAllocated ((bm.getBlockTable q.seqId).getD (r / config.blockSize) 0))
    (hc : context = q.tokens.take (r + 1)) : Written config bm q r :=
  ⟨_, he, by simp [CacheEvent.writes, hc]⟩

end Written

end MiniVllm
