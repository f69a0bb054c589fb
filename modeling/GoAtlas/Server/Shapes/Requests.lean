/-
  GoAtlas.Server.Shapes.Requests — parameters of the requests that are not implemented.

  Such a request is refused either way, but first for parameters that do not fit. Most parameters carry
  tokens for progress reports; those that do have to be objects.
-/
import GoAtlas.Server.Shapes.Basic

namespace GoAtlas.Server.Shapes

open Json (Member Shape)

/-! ## Parameters in general -/

def progressToken : Member Shape := may "workDoneToken" numberOrString

def resultToken : Member Shape := may "partialResultToken" numberOrString

def inDocument : Member Shape := need "textDocument" document

def atPosition : List (Member Shape) := [inDocument, need "position" position]

/-- Parameters of a request that reports its progress. -/
def reporting (fields : List (Member Shape)) : Shape := .object (progressToken :: fields) .any

/-- Parameters of a request that reports its progress and sends its result in parts. -/
def streaming (fields : List (Member Shape)) : Shape := .object (progressToken :: resultToken :: fields) .any

/-! ## Parts of parameters -/

/-- Options of a formatter: a few known ones, and any others with simple values. -/
def formattingOptions : Shape :=
  .object
    [ need "tabSize" .word32, need "insertSpaces" .bool, flag "trimTrailingWhitespace", flag "insertFinalNewline",
      flag "trimFinalNewlines" ]
    (.oneOf [.bool, .int32, string])

def parameterInformation : Shape :=
  .record [need "label" (.oneOf [string, .tuple [.word32, .word32]]), may "documentation" markup]

def signatureHelp : Shape :=
  .record
    [ need "signatures"
        (.list
          (.record
            [ need "label" string, may "documentation" markup, may "parameters" (.list parameterInformation),
              may "activeParameter" .word32 ])),
      may "activeSignature" .word32, may "activeParameter" .word32 ]

def signatureContext : Shape :=
  .record
    [ need "triggerKind" .int32, may "triggerCharacter" string, need "isRetrigger" .bool,
      may "activeSignatureHelp" signatureHelp ]

def completionContext : Shape := .record [need "triggerKind" .int32, may "triggerCharacter" string]

def actionContext : Shape :=
  .record [need "diagnostics" (.list diagnostic), may "only" strings, may "triggerKind" .int32]

def colour : Shape := .record [need "red" .number, need "green" .number, need "blue" .number, need "alpha" .number]

/-- An item of a hierarchy. Calls carry several tags, types one. -/
def hierarchyItem (tags : Shape) : Shape :=
  .record
    [ need "name" string, need "kind" .int32, may "tags" tags, may "detail" string, need "uri" url, need "range" range,
      need "selectionRange" range, may "data" .any ]

/-! ## Items to resolve -/

def documentLink : Shape :=
  .record [need "range" range, may "target" url, may "tooltip" string, may "data" .any]

def codeLens : Shape := .record [need "range" range, may "command" command, may "data" .any]

def inlayHint : Shape :=
  let part := .record [need "value" string, may "tooltip" markup, may "location" location, may "command" command]
  .record
    [ need "position" position, need "label" (.oneOf [string, .list part]), may "kind" .int32, may "textEdits" textEdits,
      may "tooltip" markup, flag "paddingLeft", flag "paddingRight", may "data" .any ]

def completionItem : Shape :=
  let replacing := .record [need "newText" string, need "insert" range, need "replace" range]
  .record
    [ need "label" string, may "labelDetails" (.record [may "detail" string, may "description" string]),
      may "kind" .int32, may "detail" string, may "documentation" markup, flag "deprecated", flag "preselect",
      may "sortText" string, may "filterText" string, may "insertText" string, may "insertTextFormat" .int32,
      may "insertTextMode" .int32, may "textEdit" (.oneOf [textEdit, replacing]), may "additionalTextEdits" textEdits,
      may "command" command, may "commitCharacters" strings, may "data" .any, may "tags" codes ]

def codeAction : Shape :=
  .record
    [ need "title" string, may "kind" string, may "diagnostics" (.list diagnostic), may "edit" workspaceEdit,
      may "command" command, flag "isPreferred", may "disabled" (.record [need "reason" string]), may "data" .any ]

def workspaceSymbol : Shape :=
  .record
    [ need "name" string, need "kind" .int32, may "tags" codes, may "containerName" string,
      need "location" (.oneOf [location, document]), may "data" .any ]

/-! ## Requests -/

/-- Requests about a position. -/
def positionRequests : List (String × Shape) :=
  [ ("textDocument/declaration", streaming atPosition),
    ("textDocument/typeDefinition", streaming atPosition),
    ("textDocument/implementation", streaming atPosition),
    ("textDocument/references",
      streaming (need "context" (.record [need "includeDeclaration" .bool]) :: atPosition)),
    ("textDocument/prepareCallHierarchy", reporting atPosition),
    ("textDocument/prepareTypeHierarchy", reporting atPosition),
    ("textDocument/documentHighlight", streaming atPosition),
    ("textDocument/hover", reporting atPosition),
    ("textDocument/moniker", streaming atPosition),
    ("textDocument/completion", streaming (may "context" completionContext :: atPosition)),
    ("textDocument/signatureHelp", reporting (may "context" signatureContext :: atPosition)),
    ("textDocument/onTypeFormatting",
      .object (need "ch" string :: need "options" formattingOptions :: atPosition) .any),
    ("textDocument/rename", reporting (need "newName" string :: atPosition)),
    ("textDocument/prepareRename", .record atPosition),
    ("textDocument/linkedEditingRange", reporting atPosition) ]

/-- Requests about a document. -/
def documentRequests : List (String × Shape) :=
  [ ("textDocument/documentLink", streaming [inDocument]),
    ("textDocument/codeLens", streaming [inDocument]),
    ("textDocument/foldingRange", streaming [inDocument]),
    ("textDocument/selectionRange", streaming [inDocument, need "positions" (.list position)]),
    ("textDocument/semanticTokens/full", streaming [inDocument]),
    ("textDocument/semanticTokens/full/delta", streaming [inDocument, need "previousResultId" string]),
    ("textDocument/semanticTokens/range", streaming [inDocument, need "range" range]),
    ("textDocument/inlineValue",
      reporting
        [ inDocument, need "range" range,
          need "context" (.record [need "frameId" .int32, need "stoppedLocation" range]) ]),
    ("textDocument/inlayHint", reporting [inDocument, need "range" range]),
    ("textDocument/diagnostic", streaming [inDocument, may "identifier" string, may "previousResultId" string]),
    ("textDocument/codeAction", streaming [inDocument, need "range" range, need "context" actionContext]),
    ("textDocument/documentColor", streaming [inDocument]),
    ("textDocument/colorPresentation", streaming [inDocument, need "color" colour, need "range" range]),
    ("textDocument/formatting", reporting [inDocument, need "options" formattingOptions]),
    ("textDocument/rangeFormatting", reporting [inDocument, need "range" range, need "options" formattingOptions]),
    ("textDocument/willSaveWaitUntil", .record [inDocument, need "reason" .int32]) ]

/-- Requests about the workspace. -/
def workspaceRequests : List (String × Shape) :=
  [ ("workspace/symbol", streaming [need "query" string]),
    ("workspace/diagnostic",
      streaming
        [ may "identifier" string,
          need "previousResultIds" (.list (.record [need "uri" url, need "value" string])) ]),
    ("workspace/executeCommand",
      reporting [need "command" string, ⟨"arguments", .defaulted, .list .any⟩]),
    ("workspace/willCreateFiles", .record [need "files" (.list (.record [need "uri" string]))]),
    ("workspace/willRenameFiles",
      .record [need "files" (.list (.record [need "oldUri" string, need "newUri" string]))]),
    ("workspace/willDeleteFiles", .record [need "files" (.list (.record [need "uri" string]))]) ]

/-- Requests about an item that an earlier answer gave. -/
def itemRequests : List (String × Shape) :=
  [ ("callHierarchy/incomingCalls", streaming [need "item" (hierarchyItem codes)]),
    ("callHierarchy/outgoingCalls", streaming [need "item" (hierarchyItem codes)]),
    ("typeHierarchy/supertypes", streaming [need "item" (hierarchyItem .int32)]),
    ("typeHierarchy/subtypes", streaming [need "item" (hierarchyItem .int32)]),
    ("documentLink/resolve", documentLink),
    ("codeLens/resolve", codeLens),
    ("inlayHint/resolve", inlayHint),
    ("completionItem/resolve", completionItem),
    ("codeAction/resolve", codeAction),
    ("workspaceSymbol/resolve", workspaceSymbol) ]

/-- What the parameters of a request of the protocol look like, for requests that are not implemented. -/
def requestShape? (method : String) : Option Shape :=
  (positionRequests ++ documentRequests ++ workspaceRequests ++ itemRequests).lookup method

end GoAtlas.Server.Shapes
