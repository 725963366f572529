import ClusterDiagnosis.Value.Written

/-!
The text of a chat model's message.
-/

set_option autoImplicit false
set_option relaxedAutoImplicit false

namespace ClusterDiagnosis.Message

/-- The text of a block of a message. A structured block has one only if it says so. -/
def blockText : Value → String
  | .map entries =>
    match entryAt? "type" entries with
    | some (.str "text") => (((entryAt? "text" entries).getD .null).orElse (.str "")).text
    | _ => ""
  | v => v.text

/-- The text of a message: of its blocks put together, or of its content as a whole. -/
def text : Value → String
  | .list blocks => String.join (blocks.map blockText)
  | v => (v.orElse (.str "")).text

end ClusterDiagnosis.Message
