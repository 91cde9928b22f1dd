/-! ### Progress

A long task tells a watch how far it is, and the watch may cancel it. Whether it does so depends on
how often it has been told; a task asks before each of its steps. -/

namespace Lookalike

/-- Who is told of progress: whether it cancels after having been told a number of times. -/
structure Watch where
  cancels : Nat → Bool

/-- The watch that never cancels. -/
def Watch.idle : Watch :=
  ⟨fun _ => false⟩

/-- The watch that cancels once it has been told `n` times. -/
def Watch.cancelAfter (n : Nat) : Watch :=
  ⟨fun told => n ≤ told⟩

/-- What a watch is told: how many steps are done, and how many there are. -/
structure Notice where
  done : Nat
  total : Nat
  deriving DecidableEq

/-- After how many steps a watch is told again. -/
def noticeStride (total : Nat) : Nat :=
  max (total / 100) 1

/-- Whether a watch is told after a step. -/
def isNoticed (done total : Nat) : Bool :=
  done % noticeStride total = 0 || done = total

/-- The notices with one more, if it is due. -/
def addNotice (notices : List Notice) (done total : Nat) : List Notice :=
  if isNoticed done total then notices ++ [⟨done, total⟩] else notices

/-- The results of a task with a given number of steps under a watch, none of them if it is
cancelled, and the notices. `done` steps were taken before the remaining ones, with the results
`found` in reverse order. -/
def runSteps {α β : Type} (watch : Watch) (step : α → Option β) (total : Nat) :
    Nat → List α → List β → List Notice → Option (List β) × List Notice
  | _, [], found, notices => (some found.reverse, notices)
  | done, a :: rest, found, notices =>
    if watch.cancels notices.length then (none, notices)
    else
      runSteps watch step total (done + 1) rest ((step a).toList ++ found)
        (addNotice notices (done + 1) total)

end Lookalike
