import CircuitPrint.Format.Basic
import CircuitPrint.Message.Basic

/-!
Lowering a message to a format. First the names are resolved, nested messages are opened and signals that are no bit
vectors are taken apart, which leaves a list of chunks: literal text, and bit vectors in one of their formats. Then
the chunks are spelled one after the other, with the percent signs of their text doubled.
-/
namespace CircuitPrint

inductive Chunk
  | text (content : String)
  | bits (format : BitFormat) (signal : Signal)
  deriving DecidableEq

namespace Chunk

def doublePercent (text : List Char) : List Char :=
  text.flatMap fun c => if c = '%' then ['%', '%'] else [c]

def spelling : Chunk → String
  | text content => String.ofList (doublePercent content.toList)
  | bits format _ => String.ofList ['%', format.letter]

def signal? : Chunk → Option Signal
  | text _ => none
  | bits _ signal => some signal

def enclosed (title : String) (items : List (List Chunk)) : List Chunk :=
  text (title ++ "(") :: ([text ", "].intercalate items ++ [text ")"])

end Chunk

def Format.ofChunks (chunks : List Chunk) : Format where
  text := String.join (chunks.map Chunk.spelling)
  arguments := chunks.filterMap Chunk.signal?

theorem Format.arguments_ofChunks_append (first second : List Chunk) :
    (ofChunks (first ++ second)).arguments = (ofChunks first).arguments ++ (ofChunks second).arguments :=
  List.filterMap_append

theorem Format.text_ofChunks_append (first second : List Chunk) :
    (ofChunks (first ++ second)).text = (ofChunks first).text ++ (ofChunks second).text := by
  apply String.toList_inj.mp
  simp [ofChunks]

namespace Ty

mutual
/-- The default form of a signal of the type, down to its bit vectors. -/
def chunks : Ty → Signal → List Chunk
  | unsigned _, signal | signed _, signal => [.bits .decimal signal]
  | clock, _ => [.text clock.text]
  | vec element size, signal =>
    Chunk.enclosed "Vec" ((List.range size).map fun i => element.chunks (signal.index i))
  | bundle title fields, signal =>
    let forms := fieldChunks fields
    Chunk.enclosed title (fields.map fun (name, _) =>
      .text (name ++ " -> ") :: ((forms.lookup name).elim [] (· (signal.field name))))
/-- The default forms of the fields, under their names: a name that is repeated stands for the first field. -/
def fieldChunks : List (String × Ty) → List (String × (Signal → List Chunk))
  | [] => []
  | (name, type) :: fields => (name, fun signal => type.chunks signal) :: fieldChunks fields
end

end Ty

namespace Piece

def valueChunks (naming : Naming) (signal : Signal) (directive : Directive) : Except Fault (List Chunk) := do
  let type ← signal.typed
  match directive with
  | .default => return type.chunks signal
  | .name kind => return [.text (← naming.name kind signal)]
  | .bits format =>
    if type.isBitVector then return [.bits format signal]
    else throw (.illegalDirective directive.text)
  | .other _ => throw (.illegalDirective directive.text)

mutual
def chunks (naming : Naming) : Piece → Except Fault (List Chunk)
  | text content => .ok [.text content]
  | percent => .ok [.text "%"]
  | value signal directive => valueChunks naming signal directive
  | name signal kind => (naming.name kind signal).map fun name => [.text name]
  | nested content => chunksOf naming content
def chunksOf (naming : Naming) : List Piece → Except Fault (List Chunk)
  | [] => .ok []
  | piece :: pieces => do
    let first ← piece.chunks naming
    let others ← chunksOf naming pieces
    return first ++ others
end

end Piece

def Message.lower (naming : Naming) (message : Message) : Except Fault Format :=
  (Piece.chunksOf naming message).map Format.ofChunks

end CircuitPrint
