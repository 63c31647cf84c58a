import Mathlib.Tactic

/-! `cache/block_table.py`. -/

namespace MiniVllm

structure BlockTableEntry where
  physicalBlockId : ℕ
  isShared : Bool := false
  deriving DecidableEq, Repr

structure BlockTable where
  entries : List BlockTableEntry := []
  deriving DecidableEq, Repr

namespace BlockTable

variable (t : BlockTable)

def addBlock (pid : ℕ) : BlockTable := ⟨t.entries ++ [⟨pid, false⟩]⟩

def addSharedBlock (pid : ℕ) : BlockTable := ⟨t.entries ++ [⟨pid, true⟩]⟩

def numBlocks : ℕ := t.entries.length

def getBlockIds : List ℕ := t.entries.map (·.physicalBlockId)

def getPhysicalBlock (blockSize tokenPosition : ℕ) : Option ℕ :=
  t.getBlockIds[tokenPosition / blockSize]?

def isSharedAt (blockSize tokenPosition : ℕ) : Bool :=
  (t.entries[tokenPosition / blockSize]?.map (·.isShared)).getD false

@[simp] lemma getBlockIds_addBlock (pid : ℕ) : (t.addBlock pid).getBlockIds = t.getBlockIds ++ [pid] := by
  simp [addBlock, getBlockIds]

@[simp] lemma getBlockIds_addSharedBlock (pid : ℕ) :
    (t.addSharedBlock pid).getBlockIds = t.getBlockIds ++ [pid] := by
  simp [addSharedBlock, getBlockIds]

lemma numBlocks_eq : t.numBlocks = t.getBlockIds.length := by
  simp [numBlocks, getBlockIds]

@[simp] lemma getBlockIds_empty : (⟨[]⟩ : BlockTable).getBlockIds = [] := rfl

end BlockTable

end MiniVllm
