import QueryShell.Proofs.Connection.Judgement
import QueryShell.Proofs.Value.WellTagged

namespace QueryShell.Connection

open Json (Document Encodable Finite)

inductive Declared : Except Stop Value → Prop where
  | returned (v : Value) : Declared (.ok v)
  | service {e : ShellError} {status : Option Int} {code : Value} :
      e.cause = .service status code → Declared (.error (.failed (.reported e)))
  | transport {e : ShellError} : e.cause = .transport → Declared (.error (.failed (.reported e)))

inductive Reply.Escapes [Text.Codecs] : Reply → Prop where
  | illTagged {reply : Reply} {v : Value} : reply.Delivers v → ¬ v.WellTagged → Escapes reply
  | garbled {reply : Reply} : reply.Garbled → Escapes reply
  | fault (f : Fault) : Escapes (.fault f)
  | interrupted (i : Interrupt) : Escapes (.interrupted i)

section

variable {reply : Reply} {v w : Value}

theorem Reply.Delivers.document (h : reply.Delivers v) : Document Json.AnyLeaf v := by
  cases h with
  | intro _ _ hbody hmem => exact (Json.document_readBytes? hbody).value hmem

theorem Reply.Delivers.unique (hv : reply.Delivers v) (hw : reply.Delivers w) : v = w := by
  cases hv with
  | intro contentType hstatus hbody hmem =>
      have hfirst := ((delivers_iff hbody).1 (.intro contentType hstatus hbody hmem)).2
      have hsecond := ((delivers_iff hbody).1 hw).2
      exact Option.some.inj (hfirst.symm.trans hsecond)

variable [Text.Codecs]

namespace Client

end Client

end

def escaped? : Except Stop Value → Option Fault
  | .error (.failed (.fault f)) => some f
  | _ => none

theorem eq_of_escaped? {outcome : Except Stop Value} {f : Fault} (h : escaped? outcome = some f) :
    outcome = .error (.failed (.fault f)) := by
  unfold escaped? at h
  split at h <;> cases h
  rfl

end QueryShell.Connection
