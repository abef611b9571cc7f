import Munch.Text.Blank

/-!
# Configuration of a tokenizer

A text is streamed in **chunks**, and each chunk in **steps**; both sizes count characters. A
**flush** forces out a token that more text could still extend, after each chunk or at the end of
the stream alone. A configuration is **valid** if `1 ≤ stepSize ≤ chunkSize`.
-/

namespace Munch

/-- When a token that could still grow is forced out. -/
inductive FlushPolicy where
  | perChunk
  | endOfStream
deriving DecidableEq, Repr

structure Config where
  chunkSize : UInt64 := 256
  stepSize : UInt64 := 32
  flushPolicy : FlushPolicy := .perChunk
  trimInput : Bool := true
deriving DecidableEq, Repr

namespace Config

/-- Why a configuration cannot be used. -/
inductive Error where
  | chunkSizeZero
  | stepSizeZero
  | stepExceedsChunk (step chunk : UInt64)
  /-- A reason given in words. -/
  | other (reason : String)
deriving DecidableEq, Repr

def Error.message : Error → String
  | chunkSizeZero => "chunk size must be greater than zero"
  | stepSizeZero => "step size must be greater than zero"
  | stepExceedsChunk step chunk => s!"step size ({step}) must not exceed chunk size ({chunk})"
  | other reason => reason

def check (c : Config) : Except Error Unit :=
  if c.chunkSize = 0 then .error .chunkSizeZero
  else if c.stepSize = 0 then .error .stepSizeZero
  else if c.chunkSize < c.stepSize then .error (.stepExceedsChunk c.stepSize c.chunkSize)
  else .ok ()

/-- A configuration is valid if a step is not empty and fits into a chunk. -/
theorem check_eq_ok_iff {c : Config} :
    c.check = .ok () ↔ 1 ≤ c.stepSize ∧ c.stepSize ≤ c.chunkSize := by
  simp only [UInt64.le_iff_toNat_le, check, UInt64.lt_iff_toNat_lt, ← UInt64.toNat_inj]
  have h0 : (0 : UInt64).toNat = 0 := rfl
  have h1 : (1 : UInt64).toNat = 1 := rfl
  rw [h0, h1]
  split <;> rename_i hc
  · simp only [reduceCtorEq, false_iff]; omega
  · split <;> rename_i hs
    · simp only [reduceCtorEq, false_iff]; omega
    · split <;> rename_i h
      · simp only [reduceCtorEq, false_iff]; omega
      · simp only [true_iff]; omega

/-- The part of a text that is streamed. -/
def streamed (c : Config) (text : List Char) : List Char := Text.trimIf c.trimInput text

end Config

end Munch
