import CodeMetrics.Log

/-!
# The console

What a run puts on the console goes to one of two streams, so that its output can be taken on from there while records
and errors are still seen. Texts are given to the last character. Of a record only what it says is given: the console
lays it out and may add the time. Help and hints on how the command is used are named only.
-/

namespace CodeMetrics

/-- The streams of a console. -/
inductive Stream where
  | output
  | errors
  deriving DecidableEq, Repr

/-- What is put on the console. -/
inductive Content where
  | text (text : String)
  | record (r : Record)
  | help
  | usage
  deriving DecidableEq, Repr

end CodeMetrics
