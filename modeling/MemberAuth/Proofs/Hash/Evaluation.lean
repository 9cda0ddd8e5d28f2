import MemberAuth.Proofs.Hash.Hasher

/-!
# Hashes of some passwords, evaluated

The schedule of a block grows at the end of an array, which the kernel can only evaluate slowly. As
a list that grows in front it is the same, and the hashes of concrete passwords can be evaluated, at
the lowest cost.
-/
namespace MemberAuth.Hash

open Text

namespace Sha256

/-- The word that comes next in a schedule, whose last word stands in front. -/
def nextWord (w : List UInt32) : UInt32 :=
  let back (n : Nat) : UInt32 := w.getD (w.length - 1 - (w.length - n)) 0
  let x := back 15
  let y := back 2
  let s0 := rotateRight x 7 ^^^ rotateRight x 18 ^^^ (x >>> 3)
  let s1 := rotateRight y 17 ^^^ rotateRight y 19 ^^^ (y >>> 10)
  back 16 + s0 + back 7 + s1

/-- Puts `n` more words in front. -/
def unroll : Nat → List UInt32 → List UInt32
  | 0, w => w
  | n + 1, w => unroll n (nextWord w :: w)

/-- Counted from the end, the words of the array are those of the list counted from the front. -/
theorem getD_reverse (w : Array UInt32) {n : Nat} (hn : 0 < n) :
    w.toList.reverse.getD (w.toList.reverse.length - 1 - (w.toList.reverse.length - n)) 0 =
      w.getD (w.size - n) 0 := by
  rw [List.length_reverse, Array.length_toList, List.getD_eq_getElem?_getD,
    Array.getD_eq_getD_getElem?]
  rcases Nat.eq_zero_or_pos w.size with empty | some
  · rw [Array.eq_empty_of_size_eq_zero empty]
    rfl
  · have bound : w.size - 1 - (w.size - n) < w.toList.length := by
      rw [Array.length_toList]
      omega
    have place : w.size - 1 - (w.size - 1 - (w.size - n)) = w.size - n := by omega
    rw [List.getElem?_reverse bound, Array.length_toList, place, Array.getElem?_toList]

theorem extend_eq (w : Array UInt32) (n : Nat) :
    (extend w n).toList.reverse = nextWord w.toList.reverse :: w.toList.reverse := by
  have back {n : Nat} (hn : 0 < n) := getD_reverse w hn
  rw [extend, Array.toList_push, List.reverse_append, nextWord]
  simp only [back (by decide : 0 < 15), back (by decide : 0 < 2), back (by decide : 0 < 16),
    back (by decide : 0 < 7), List.reverse_singleton, List.singleton_append]

theorem foldl_extend (ns : List Nat) (w : Array UInt32) :
    (ns.foldl extend w).toList.reverse = unroll ns.length w.toList.reverse := by
  induction ns generalizing w with
  | nil => rfl
  | cons n ns ih => rw [List.foldl_cons, ih, extend_eq, List.length_cons, unroll]

theorem schedule_eq (block : List UInt32) :
    schedule block = (unroll 48 block.reverse).reverse := by
  rw [schedule, ← List.reverse_reverse (Array.toList _), foldl_extend, List.length_range]

/-- Compresses `n` blocks, with their schedules as lists. -/
def absorbUnrolled : Nat → State → List UInt32 → State
  | 0, s, _ => s
  | n + 1, s, ws =>
    let t := (roundConstants.zip (unroll 48 (ws.take 16).reverse).reverse).foldl step s
    absorbUnrolled n ⟨s.a + t.a, s.b + t.b, s.c + t.c, s.d + t.d, s.e + t.e, s.f + t.f, s.g + t.g,
      s.h + t.h⟩ (ws.drop 16)

theorem absorb_eq (n : Nat) (s : State) (ws : List UInt32) :
    absorb n s ws = absorbUnrolled n s ws := by
  induction n generalizing s ws with
  | zero => rfl
  | succ n ih => rw [absorb, ih, compress, schedule_eq, absorbUnrolled]

end Sha256

theorem sha256_eq (message : List UInt8) :
    sha256 message = (Sha256.absorbUnrolled ((words (Sha256.pad message)).length / 16)
      Sha256.initial (words (Sha256.pad message))).toBytes := by
  rw [sha256, Sha256.absorb_eq]

theorem admissible_lowest : Scrypt.admissible 1 1 1 = true := rfl

/-- The cost at which hashing takes the least. -/
def lowestCost : Cost :=
  ⟨1, 1, 1, admissible_lowest⟩

def output (password : String) : List UInt8 :=
  scrypt lowestCost (textBytes password) (Vector.replicate 16 7).toList outputLength

theorem head_output : (output "Lovelace#1").head? = some 20 ∧
    (output "Lovelace#2").head? = some 65 ∧ (output "Lovelace#3").head? = some 221 := by
  simp only [output, scrypt, deriveKey, hmac, sha256_eq]
  refine ⟨?_, ?_, ?_⟩
  · decide +kernel
  · decide +kernel
  · decide +kernel

theorem verify_eq_false (password attempt : String)
    (apart : (output attempt).head? ≠ (output password).head?) (hasher : Hasher) :
    hasher.verify (Hasher.hash ⟨lowestCost⟩ (.replicate 16 7) password) attempt = false := by
  refine Bool.eq_false_iff.mpr fun accepts => apart ?_
  have same : output attempt = output password := (Hasher.verify_hash _ _ _ _ _).mp accepts
  rw [same]

end MemberAuth.Hash
