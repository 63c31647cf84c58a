import MiniVllm.EngineProofs.Refinement
import MiniVllm.EngineProofs.Written
import MiniVllm.ExecutorProofs.Fake
import Mathlib.Logic.Encodable.Basic
import Mathlib.Logic.Equiv.List

/-! What the sharing properties speak about: cache hits, allocations and the tables of live sequences. -/

namespace MiniVllm

variable {ε : Type}

namespace BlockManager

/-- The hash that the most recent allocation of a block was made for. -/
def lastHash (bm : BlockManager ε) (p : ℕ) : Option (Option ℤ) :=
  bm.history.findSome? (fun
    | .allocated block _ hash => if block = p then some hash else none
    | .wrote .. => none)

def matchedBlocks (P : BlockParams ε) (bm : BlockManager ε) (prompt : List ℕ) : List (ℕ × ℕ) :=
  (bm.probePrefixCache P prompt).matchedPhysicalBlockIds.zipIdx

def ensureHit (P : BlockParams ε) (bm : BlockManager ε) (q : Sequence) (position : ℕ) : Option ℕ :=
  if (bm.getBlockTable q.seqId).length ≤ position / P.blockSize then
    (bm.promptHash P q position (position / P.blockSize)).bind bm.cachedBlock
  else none

lemma lastHash_cons_allocated (bm bm' : BlockManager ε) {p : ℕ} {sid : SeqId} {hash : Option ℤ}
    (h : bm'.history = .allocated p sid hash :: bm.history) (r : ℕ) :
    bm'.lastHash r = if r = p then some hash else bm.lastHash r := by
  simp only [lastHash, h, List.findSome?_cons]
  by_cases hr : p = r
  · simp [hr]
  · simp [hr, Ne.symm hr]

lemma lastHash_congr {bm bm' : BlockManager ε} (h : bm'.history = bm.history) (r : ℕ) :
    bm'.lastHash r = bm.lastHash r := by
  simp only [lastHash, h]

lemma lastHash_record (bm : BlockManager ε) {events : List CacheEvent}
    (h : ∀ e ∈ events, ∃ slot sid position context, e = .wrote slot sid position context) (r : ℕ) :
    (bm.record events).lastHash r = bm.lastHash r := by
  simp only [lastHash, record_history, List.findSome?_append]
  have hn : events.findSome? (fun
      | .allocated block _ hash => if block = r then some hash else none
      | .wrote .. => none) = none := by
    refine List.findSome?_eq_none_iff.mpr fun e he => ?_
    obtain ⟨slot, sid, position, context, rfl⟩ := h e he
    rfl
  rw [hn, Option.none_or]

lemma Takes.nextFree {P : BlockParams ε} {sid : SeqId} {hash : Option ℤ} {p : ℕ} {bm bm' : BlockManager ε}
    (hb : bm.Balanced) (h : Takes P sid hash p bm bm') : bm.allocator.nextFree = some p := by
  refine List.find?_range_eq_some.mpr ⟨h.wasFree, ?_, fun j hj => by simp [h.first j hj]⟩
  exact List.mem_range.mpr (BlockAllocator.lt_of_isFree hb.valid h.wasFree)

end BlockManager

def fakeSetup (config : Config) (blockHash : List ℕ → ℤ) : Setup FakeState where
  config := config
  executor := fakeModelExecutor config
  blockHash := blockHash

def codeHash (tokens : List ℕ) : ℤ := (Encodable.encode tokens : ℕ)

lemma codeHash_injective : Function.Injective codeHash :=
  fun _ _ h => Encodable.encode_injective (Int.ofNat.inj h)

def oneTokenBlocks : Config := { Config.default with blockSize := 1, blockSize_pos := Nat.one_pos }

def oneTokenSetup : Setup FakeState := fakeSetup oneTokenBlocks codeHash

end MiniVllm
