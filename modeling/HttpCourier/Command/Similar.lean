import HttpCourier.Text.CodePoint

/-!
# HttpCourier.Command.Similar

**Names that someone may have meant.** How similar two names are is measured by what they share:
the longest block that occurs in both, and then, in the same way, what stands before it and what
stands after it in both. Names that share three fifths of their code points or more are similar.
-/

namespace HttpCourier.Command

/-- The length of the common beginning of two texts. -/
def commonLength : Text → Text → Nat
  | a :: s, b :: t => if a = b then commonLength s t + 1 else 0
  | _, _ => 0

/-- A block that two texts share: its places in them, and its length. -/
structure Block where
  inFirst : Nat
  inSecond : Nat
  length : Nat
  deriving DecidableEq, Repr

/-- The longest block that two texts share; the first one of several. -/
def longestBlock (a b : Text) : Block :=
  (List.range a.length).foldl (fun best i =>
    (List.range b.length).foldl (fun best j =>
      let length := commonLength (a.drop i) (b.drop j)
      if best.length < length then ⟨i, j, length⟩ else best) best) ⟨0, 0, 0⟩

/-- How many code points two texts share, block by block; each block leaves a shorter text on
either side, so that `fuel` need not exceed the length of the first text. -/
def sharedWithin : (fuel : Nat) → Text → Text → Nat
  | 0, _, _ => 0
  | fuel + 1, a, b =>
    let block := longestBlock a b
    if block.length = 0 then 0
    else
      block.length + sharedWithin fuel (a.take block.inFirst) (b.take block.inSecond) +
        sharedWithin fuel (a.drop (block.inFirst + block.length))
          (b.drop (block.inSecond + block.length))

/-- A known name, and what it has in common with the name in question. -/
structure Candidate where
  name : Text
  shared : Nat
  /-- The lengths of both names together. -/
  total : Nat

namespace Candidate

/-- A known name, compared with the name in question. -/
def of (wanted name : Text) : Candidate :=
  ⟨name, sharedWithin name.length name wanted, name.length + wanted.length⟩

/-- Whether twice what is shared makes up three fifths of both names. -/
def isSimilar (c : Candidate) : Bool := 3 * c.total ≤ 10 * c.shared

/-- Whether the first of two candidates is the better one, or the later one by name. -/
def le (c d : Candidate) : Bool :=
  d.shared * c.total < c.shared * d.total ||
    (d.shared * c.total == c.shared * d.total && Text.le d.name c.name)

end Candidate

/-- How many similar names are offered. -/
def maxSimilar : Nat := 3

/-- The names among the known ones that are most similar to the one in question. -/
def similarNames (known : List Text) (wanted : Text) : List Text :=
  let candidates := (known.map (Candidate.of wanted)).filter Candidate.isSimilar
  ((candidates.mergeSort Candidate.le).take maxSimilar).map Candidate.name

end HttpCourier.Command
