/-
  GoAtlas.Server.Shapes.Basic — shapes of the protocol's shared nouns.

  Positions, edits, diagnostics and the like occur in the parameters of many requests.
-/
import GoAtlas.Json.Shape
import GoAtlas.Url.Parser

namespace GoAtlas.Server.Shapes

open Json (Member Shape)

/-! ## Fields -/

def need (name : String) (shape : Shape) : Member Shape := ⟨name, .required, shape⟩

def may (name : String) (shape : Shape) : Member Shape := ⟨name, .optional, shape⟩

def mayAtEnd (name : String) (shape : Shape) : Member Shape := ⟨name, .optionalAtEnd, shape⟩

def flag (name : String) : Member Shape := may name .bool

/-- A record of optional truth values. -/
def flags (names : List String) : Shape := .record (names.map flag)

/-! ## Values -/

def string : Shape := .text fun _ => true

def url : Shape := .text fun s => (Url.parse? s).isSome

def strings : Shape := .list string

def codes : Shape := .list .int32

def numberOrString : Shape := .oneOf [.int32, string]

/-! ## Places -/

def position : Shape := .record [need "line" .word32, need "character" .word32]

def range : Shape := .record [need "start" position, need "end" position]

def location : Shape := .record [need "uri" url, need "range" range]

def document : Shape := .record [need "uri" url]

/-! ## Texts -/

/-- How a text is marked up. -/
def markupNames : List String := ["plaintext", "markdown"]

/-- A text, or one that says how it is marked up. -/
def markup : Shape := .oneOf [string, .record [need "kind" (.choice true markupNames), need "value" string]]

def command : Shape := .record [need "title" string, need "command" string, may "arguments" (.list .any)]

/-! ## Edits -/

def textEdit : Shape := .record [need "range" range, need "newText" string]

def textEdits : Shape := .list textEdit

def documentEdit : Shape :=
  .record [need "textDocument" (.record [need "uri" url, may "version" .int32]), need "edits" textEdits]

def fileOptions : Shape := flags ["overwrite", "ignoreIfExists"]

/-- A file that is created, renamed or deleted. -/
def fileChange : Shape :=
  .tagged "kind"
    [ need "create" (.record [need "uri" url, may "options" fileOptions, may "annotationId" string]),
      need "rename"
        (.record [need "oldUri" url, need "newUri" url, may "options" fileOptions, may "annotationId" string]),
      need "delete"
        (.record
          [ need "uri" url,
            may "options" (.record [flag "recursive", flag "ignoreIfNotExists", may "annotationId" string]) ]) ]

def workspaceEdit : Shape :=
  .record
    [ mayAtEnd "changes" (.map (fun s => (Url.parse? s).isSome) textEdits),
      may "documentChanges" (.list (.oneOf [fileChange, documentEdit])),
      may "changeAnnotations"
        (.map (fun _ => true) (.record [need "label" string, flag "needsConfirmation", may "description" string])) ]

/-! ## Diagnostics -/

def diagnostic : Shape :=
  .record
    [ need "range" range, may "severity" .int32, may "code" numberOrString,
      may "codeDescription" (.record [need "href" url]), may "source" string, need "message" string,
      may "relatedInformation" (.list (.record [need "location" location, need "message" string])),
      may "tags" codes, may "data" .any ]

end GoAtlas.Server.Shapes
