/-
# Kinds

The enumerations that a client and a server share, with the numbers that stand
for their members in messages.
-/

namespace LanguageServer.Wire

/-- How serious a diagnostic is. -/
inductive Severity
  | error
  | warning
  | information
  | hint
  deriving DecidableEq, Repr

/-- The number of a severity. -/
def Severity.toNat : Severity → Nat
  | .error => 1
  | .warning => 2
  | .information => 3
  | .hint => 4

/-- What a completion inserts. -/
inductive CompletionKind
  | text
  | function
  | binding
  | keyword
  | record
  | typeParameter
  deriving DecidableEq, Repr

/-- The number of a kind of completion. -/
def CompletionKind.toNat : CompletionKind → Nat
  | .text => 1
  | .function => 3
  | .binding => 6
  | .keyword => 14
  | .record => 22
  | .typeParameter => 25

/-- What a symbol names. -/
inductive SymbolKind
  | field
  | function
  | binding
  | record
  deriving DecidableEq, Repr

/-- The number of a kind of symbol. -/
def SymbolKind.toNat : SymbolKind → Nat
  | .field => 8
  | .function => 12
  | .binding => 13
  | .record => 23

/-- How a highlighted place uses its symbol. -/
inductive HighlightKind
  | text
  | read
  | write
  deriving DecidableEq, Repr

/-- The number of a kind of highlight. -/
def HighlightKind.toNat : HighlightKind → Nat
  | .text => 1
  | .read => 2
  | .write => 3

/-- What an inlay hint shows. -/
inductive InlayHintKind
  | type
  | parameter
  deriving DecidableEq, Repr

/-- The number of a kind of inlay hint. -/
def InlayHintKind.toNat : InlayHintKind → Nat
  | .type => 1
  | .parameter => 2

/-- How a client tells about changes of a document. -/
inductive SyncKind
  | none
  | full
  | incremental
  deriving DecidableEq, Repr

/-- The number of a kind of synchronization. -/
def SyncKind.toNat : SyncKind → Nat
  | .none => 0
  | .full => 1
  | .incremental => 2

end LanguageServer.Wire
