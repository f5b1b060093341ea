/-! The first error lines of a run, up to a cap. -/

namespace BulkActions.Run

structure Samples where
  lines : List String
  cap : Nat
  deriving DecidableEq, Repr

namespace Samples

def empty (cap : Nat) : Samples := ⟨[], cap⟩

/-- Whether the next line is kept. -/
def hasRoom (s : Samples) : Bool := s.lines.length < s.cap

/-- Keeps a line if there is room, and tells whether there was. -/
def push (s : Samples) (line : String) : Samples × Bool :=
  if s.hasRoom then ({ s with lines := s.lines ++ [line] }, true) else (s, false)

/-- Lines pushed one by one, whatever becomes of each. -/
def pushAll (s : Samples) (lines : List String) : Samples :=
  lines.foldl (fun s line => (s.push line).1) s

/-- Lines pushed one by one up to the first that is not kept. -/
def pushWhileKept (s : Samples) : List String → Samples
  | [] => s
  | line :: rest =>
    match s.push line with
    | (s, true) => s.pushWhileKept rest
    | (s, false) => s

/-- Keeps at most the first `limit` of the lines. -/
def extend (s : Samples) (lines : List String) (limit : Nat) : Samples :=
  s.pushWhileKept (lines.take limit)

@[simp] theorem cap_push (s : Samples) (line : String) : (s.push line).1.cap = s.cap := by
  unfold push
  split <;> rfl

theorem pushAll_cons (s : Samples) (line : String) (rest : List String) :
    s.pushAll (line :: rest) = (s.push line).1.pushAll rest := rfl

end Samples

end BulkActions.Run
