import MiniVllm.Cache.Pool

/-! When the pool that `compute_num_gpu_blocks` returns fits the memory it was computed from. -/

namespace MiniVllm

namespace KVCacheShape

variable (shape : KVCacheShape)

lemma bytesPerBlockTotal_eq : shape.numLayers * 2 * shape.numKvHeads * shape.blockSize * shape.headDim * shape.itemsize =
    shape.bytesPerBlockTotal := by
  simp only [bytesPerBlockTotal, bytesPerBlockPerLayer, Nat.mul_assoc]

lemma bytesPerBlockTotal_pos : 0 < shape.bytesPerBlockTotal := by
  have hlayer : 0 < shape.bytesPerBlockPerLayer := by
    have hheads := Nat.mul_pos Nat.two_pos shape.numKvHeads_pos
    exact Nat.mul_pos (Nat.mul_pos (Nat.mul_pos hheads shape.blockSize_pos) shape.headDim_pos) shape.itemsize_pos
  exact Nat.mul_pos shape.numLayers_pos hlayer

end KVCacheShape

def kvBudget (freeBytes peakRuntimeEstimate workspaceReserve : ℤ) (gpuMemoryUtilization : ℚ) : ℤ :=
  pyInt ((freeBytes - peakRuntimeEstimate - workspaceReserve : ℤ) * gpuMemoryUtilization)

lemma le_pyInt {x : ℚ} (hx : 0 ≤ x) (n : ℤ) : n ≤ pyInt x ↔ (n : ℚ) ≤ x := by
  rw [pyInt, if_pos hx, Int.le_floor]

section Budget

variable (shape : KVCacheShape) (freeBytes peakRuntimeEstimate workspaceReserve : ℤ) (gpuMemoryUtilization : ℚ)

structure FitsBudget : Prop where
  fits : ∀ n, computeNumGpuBlocks shape (.cuda freeBytes) gpuMemoryUtilization peakRuntimeEstimate workspaceReserve
    none = .ok n →
      n * shape.bytesPerBlockTotal ≤ kvBudget freeBytes peakRuntimeEstimate workspaceReserve gpuMemoryUtilization ∧
        minBlocks ≤ n
  raises : kvBudget freeBytes peakRuntimeEstimate workspaceReserve gpuMemoryUtilization <
      minBlocks * shape.bytesPerBlockTotal →
    ∃ err, computeNumGpuBlocks shape (.cuda freeBytes) gpuMemoryUtilization peakRuntimeEstimate workspaceReserve
      none = .error err ∧ err.isRuntimeError = true

variable {shape freeBytes peakRuntimeEstimate workspaceReserve gpuMemoryUtilization}
  (hpos : 0 < gpuMemoryUtilization) (hle : gpuMemoryUtilization ≤ 1)

include hpos

lemma le_kvBudget (h : 0 < freeBytes - peakRuntimeEstimate - workspaceReserve) (n : ℤ) :
    n ≤ kvBudget freeBytes peakRuntimeEstimate workspaceReserve gpuMemoryUtilization ↔
      (n : ℚ) ≤ (freeBytes - peakRuntimeEstimate - workspaceReserve : ℤ) * gpuMemoryUtilization := by
  apply le_pyInt
  exact mul_nonneg (by exact_mod_cast h.le) hpos.le

include hle

variable (shape) in
lemma computeNumGpuBlocks_exhausted (h : freeBytes - peakRuntimeEstimate - workspaceReserve ≤ 0) :
    computeNumGpuBlocks shape (.cuda freeBytes) gpuMemoryUtilization peakRuntimeEstimate workspaceReserve none =
      .error (.memoryExhausted freeBytes peakRuntimeEstimate workspaceReserve) := by
  rw [computeNumGpuBlocks, if_neg (not_not_intro ⟨hpos, hle⟩)]
  exact if_pos h

variable (shape) in
lemma computeNumGpuBlocks_returns (h : 0 < freeBytes - peakRuntimeEstimate - workspaceReserve) :
    computeNumGpuBlocks shape (.cuda freeBytes) gpuMemoryUtilization peakRuntimeEstimate workspaceReserve none =
      .ok (max minBlocks
        ((kvBudget freeBytes peakRuntimeEstimate workspaceReserve gpuMemoryUtilization).fdiv
          shape.bytesPerBlockTotal)) := by
  have hclamp : ∀ n : ℤ, ¬ max minBlocks n < minBlocks := fun n => not_lt.mpr (le_max_left _ _)
  rw [computeNumGpuBlocks, if_neg (not_not_intro ⟨hpos, hle⟩)]
  simp only [if_neg (not_le.mpr h), if_neg (hclamp _)]
  rw [← shape.bytesPerBlockTotal_eq, kvBudget]

theorem computeNumGpuBlocks_fits : FitsBudget shape freeBytes peakRuntimeEstimate workspaceReserve gpuMemoryUtilization ↔
    freeBytes - peakRuntimeEstimate - workspaceReserve ≤ 0 ∨
      ((minBlocks * shape.bytesPerBlockTotal : ℤ) : ℚ) ≤
        (freeBytes - peakRuntimeEstimate - workspaceReserve : ℤ) * gpuMemoryUtilization := by
  rcases le_or_gt (freeBytes - peakRuntimeEstimate - workspaceReserve) 0 with hnone | hleft
  · have hraise := computeNumGpuBlocks_exhausted shape hpos hle hnone
    refine iff_of_true ⟨fun n hn => ?_, fun _ => ⟨_, hraise, rfl⟩⟩ (Or.inl hnone)
    rw [hraise] at hn
    cases hn
  · have hreturn := computeNumGpuBlocks_returns shape hpos hle hleft
    rw [← le_kvBudget hpos hleft, or_iff_right (not_le.mpr hleft)]
    constructor
    · intro hfits
      by_contra hshort
      obtain ⟨err, herr, -⟩ := hfits.raises (not_le.mp hshort)
      rw [hreturn] at herr
      cases herr
    · intro hroom
      have hbytes : (0 : ℤ) < shape.bytesPerBlockTotal := by exact_mod_cast shape.bytesPerBlockTotal_pos
      refine ⟨fun n hn => ?_, fun hshort => absurd hroom (not_le.mpr hshort)⟩
      rw [hreturn] at hn
      obtain rfl := Except.ok.inj hn
      refine ⟨?_, le_max_left _ _⟩
      have hdiv := Int.ediv_mul_le
        (kvBudget freeBytes peakRuntimeEstimate workspaceReserve gpuMemoryUtilization) hbytes.ne'
      rw [Int.fdiv_eq_ediv_of_nonneg _ hbytes.le]
      rcases max_choice minBlocks (kvBudget freeBytes peakRuntimeEstimate workspaceReserve gpuMemoryUtilization /
        (shape.bytesPerBlockTotal : ℤ)) with hmax | hmax
      · rwa [hmax]
      · rwa [hmax]

end Budget

def exampleShape : KVCacheShape where
  numLayers := 32
  numKvHeads := 8
  headDim := 128
  blockSize := 16
  itemsize := 2
  numLayers_pos := Nat.succ_pos 31
  numKvHeads_pos := Nat.succ_pos 7
  headDim_pos := Nat.succ_pos 127
  blockSize_pos := Nat.succ_pos 15
  itemsize_pos := Nat.two_pos

theorem computeNumGpuBlocks_fits_gibibyte :
    FitsBudget exampleShape (1024 * 1024 * 1024) 0 workspaceReserveBytes (9 / 10) ↔
      (1024 * 1024 * 1024 : ℤ) - 0 - workspaceReserveBytes ≤ 0 ∨
        ((minBlocks * exampleShape.bytesPerBlockTotal : ℤ) : ℚ) ≤
          (1024 * 1024 * 1024 - 0 - workspaceReserveBytes : ℤ) * (9 / 10) :=
  computeNumGpuBlocks_fits (by norm_num) (by norm_num)

theorem small_memory_overcommitted :
    ¬ ∀ (shape : KVCacheShape) (freeBytes peakRuntimeEstimate workspaceReserve : ℤ) (gpuMemoryUtilization : ℚ),
      0 < gpuMemoryUtilization → gpuMemoryUtilization ≤ 1 →
        FitsBudget shape freeBytes peakRuntimeEstimate workspaceReserve gpuMemoryUtilization := by
  intro hall
  have hfits := hall exampleShape (300 * 1024 * 1024) 0 workspaceReserveBytes (1 / 2) (by norm_num) (by norm_num)
  have hreturn : computeNumGpuBlocks exampleShape (.cuda (300 * 1024 * 1024)) (1 / 2) 0 workspaceReserveBytes none =
      .ok 16 := by decide +kernel
  have hover := (hfits.fits 16 hreturn).1
  revert hover
  decide +kernel

end MiniVllm
