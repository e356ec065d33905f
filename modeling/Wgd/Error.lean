/-! The errors of the program (`error.rs`). -/

set_option autoImplicit false

namespace Wgd

/-- The kinds of `std::io::Error` the program tells apart. -/
inductive IoErrorKind where
  | notFound
  | wouldBlock
  | other
  deriving DecidableEq, Repr

structure IoError where
  kind : IoErrorKind
  message : String
  deriving DecidableEq, Repr

inductive AppError where
  | json (message : String)
  | io (error : IoError)
  | auth (message : String)
  | authRequired (message : String)
  | wireGuard (message : String)
  | busy (message : String)
  | notFound (message : String)
  | other (message : String)
  deriving DecidableEq, Repr

def AppError.toText : AppError → String
  | .json message => s!"JSON error: {message}"
  | .io error => s!"IO error: {error.message}"
  | .auth message => s!"Authentication failed: {message}"
  | .authRequired message => s!"Admin authentication required: {message}"
  | .wireGuard message => s!"WireGuard error: {message}"
  | .busy message | .notFound message | .other message => message

end Wgd
