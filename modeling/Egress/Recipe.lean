import Egress.Encoder

/-!
Recipes: values that say themselves how they are encoded, step by step. They stand for encoders of any
behaviour, those included that ignore what their writer answers, fail, or panic half-way.
-/
namespace Egress

inductive RecipeStep where
  | write (text : String)
  | writeBytes (bytes : Bytes)
  | flush
  | fail (error : EncodingError)
  | panic (panic : Panic)
  deriving DecidableEq

/-- The steps of an encoder, and whether it stops when its writer refuses one. -/
structure Recipe where
  steps : List RecipeStep
  heedful : Bool

namespace Recipe

/-- What is said about a piece that the writer refused. -/
def writeRefused : Fault := .failed (.caused "write failed")

/-- What is said about a flush that the writer refused. -/
def flushRefused : Fault := .failed (.caused "flush failed")

/-- Bytes as a text, if they are the UTF-8 form of one. -/
def textOf (bytes : Bytes) : String := (String.fromUTF8? ⟨bytes.toArray⟩).getD ""

/-- The texts written, one after the other, unless a step breaks off. -/
def textFrom (written : String) : List RecipeStep → Except Fault String
  | [] => .ok written
  | .write text :: steps => textFrom (written ++ text) steps
  | .writeBytes bytes :: steps => textFrom (written ++ textOf bytes) steps
  | .flush :: steps => textFrom written steps
  | .fail error :: _ => .error (.failed error)
  | .panic panic :: _ => .error (.panicked panic)

def bytesFrom (written : Bytes) : List RecipeStep → Except Fault Bytes
  | [] => .ok written
  | .write text :: steps => bytesFrom (written ++ Bytes.ofText text) steps
  | .writeBytes bytes :: steps => bytesFrom (written ++ bytes) steps
  | .flush :: steps => bytesFrom written steps
  | .fail error :: _ => .error (.failed error)
  | .panic panic :: _ => .error (.panicked panic)

def text (recipe : Recipe) : Except Fault String := textFrom "" recipe.steps

def bytes (recipe : Recipe) : Except Fault Bytes := bytesFrom [] recipe.steps

/-- Goes on after a step, unless it was refused and the recipe heeds refusals. -/
def heed {Action Refusal : Type} (heedful : Bool) (refused : Fault)
    (next : Emission Action Refusal) : Except Refusal Unit → Emission Action Refusal
  | .ok () => next
  | .error _ => if heedful then .done (.error refused) else next

/-- The steps on a text writer, which cannot be flushed. -/
def textSteps (heedful : Bool) : List RecipeStep → TextEmission
  | [] => .done (.ok ())
  | .write text :: steps => .act text (heed heedful writeRefused (textSteps heedful steps))
  | .writeBytes bytes :: steps => .act (textOf bytes) (heed heedful writeRefused (textSteps heedful steps))
  | .flush :: steps => textSteps heedful steps
  | .fail error :: _ => .done (.error (.failed error))
  | .panic panic :: _ => .done (.error (.panicked panic))

def byteSteps (heedful : Bool) : List RecipeStep → ByteEmission
  | [] => .done (.ok ())
  | .write text :: steps =>
    .act (.write (Bytes.ofText text)) (heed heedful writeRefused (byteSteps heedful steps))
  | .writeBytes bytes :: steps => .act (.write bytes) (heed heedful writeRefused (byteSteps heedful steps))
  | .flush :: steps => .act .flush (heed heedful flushRefused (byteSteps heedful steps))
  | .fail error :: _ => .done (.error (.failed error))
  | .panic panic :: _ => .done (.error (.panicked panic))

def textEncoder : Encoder Recipe := .text text

def textStreamEncoder : Encoder Recipe := .textStream fun recipe => textSteps recipe.heedful recipe.steps

def binaryEncoder : Encoder Recipe := .binary bytes

def binaryStreamEncoder : Encoder Recipe := .binaryStream fun recipe => byteSteps recipe.heedful recipe.steps

end Recipe
end Egress
