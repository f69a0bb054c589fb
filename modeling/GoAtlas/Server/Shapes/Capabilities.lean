/-
  GoAtlas.Server.Shapes.Capabilities — what a client says it can do.

  The server uses none of it, but a client that says it wrongly is not served.
-/
import GoAtlas.Server.Shapes.Basic

namespace GoAtlas.Server.Shapes

open Json (Member Shape)

/-- A capability that says only whether it can be registered later. -/
def registration : Shape := flags ["dynamicRegistration"]

def refreshing : Shape := flags ["refreshSupport"]

def linking : Shape := flags ["dynamicRegistration", "linkSupport"]

def kinds : Shape := .record [may "valueSet" codes]

/-- Tags that are understood; a truth value stands for all or none of them. -/
def tagSupport : Member Shape := mayAtEnd "tagSupport" (.oneOf [.bool, .record [need "valueSet" codes]])

def resolving : Member Shape := may "resolveSupport" (.record [need "properties" strings])

def formats (name : String) : Member Shape := may name (.list (.choice false markupNames))

/-! ## The workspace -/

def editCapabilities : Shape :=
  .record
    [ flag "documentChanges", may "resourceOperations" (.list (.choice false ["create", "rename", "delete"])),
      may "failureHandling" (.choice false ["abort", "transactional", "textOnlyTransactional", "undo"]),
      flag "normalizesLineEndings", may "changeAnnotationSupport" (flags ["groupsOnLabel"]) ]

def workspaceCapabilities : Shape :=
  .record
    [ flag "applyEdit", may "workspaceEdit" editCapabilities, may "didChangeConfiguration" registration,
      may "didChangeWatchedFiles" (flags ["dynamicRegistration", "relativePatternSupport"]),
      may "symbol" (.record [flag "dynamicRegistration", may "symbolKind" kinds, tagSupport, resolving]),
      may "executeCommand" registration, flag "workspaceFolders", flag "configuration", may "semanticTokens" refreshing,
      may "codeLens" refreshing,
      may "fileOperations"
        (flags
          ["dynamicRegistration", "didCreate", "willCreate", "didRename", "willRename", "didDelete", "willDelete"]),
      may "inlineValue" refreshing, may "inlayHint" refreshing, may "diagnostic" refreshing ]

/-! ## Documents -/

def completionCapabilities : Shape :=
  .record
    [ flag "dynamicRegistration",
      may "completionItem"
        (.record
          [ flag "snippetSupport", flag "commitCharactersSupport", formats "documentationFormat",
            flag "deprecatedSupport", flag "preselectSupport", tagSupport, flag "insertReplaceSupport", resolving,
            may "insertTextModeSupport" (.record [need "valueSet" codes]), flag "labelDetailsSupport" ]),
      may "completionItemKind" kinds, flag "contextSupport", may "insertTextMode" .int32,
      may "completionList" (.record [may "itemDefaults" strings]) ]

def signatureCapabilities : Shape :=
  .record
    [ flag "dynamicRegistration",
      may "signatureInformation"
        (.record
          [ formats "documentationFormat", may "parameterInformation" (flags ["labelOffsetSupport"]),
            flag "activeParameterSupport" ]),
      flag "contextSupport" ]

def actionCapabilities : Shape :=
  .record
    [ flag "dynamicRegistration",
      may "codeActionLiteralSupport" (.record [need "codeActionKind" (.record [need "valueSet" strings])]),
      flag "isPreferredSupport", flag "disabledSupport", flag "dataSupport", resolving, flag "honorsChangeAnnotations" ]

def foldingCapabilities : Shape :=
  .record
    [ flag "dynamicRegistration", may "rangeLimit" .word32, flag "lineFoldingOnly",
      may "foldingRangeKind" (.record [may "valueSet" (.list (.choice false ["comment", "imports", "region"]))]),
      may "foldingRange" (flags ["collapsedText"]) ]

def tokenCapabilities : Shape :=
  .record
    [ flag "dynamicRegistration",
      need "requests" (.record [flag "range", may "full" (.oneOf [.bool, .object [flag "delta"] .any])]),
      need "tokenTypes" strings, need "tokenModifiers" strings, need "formats" strings, flag "overlappingTokenSupport",
      flag "multilineTokenSupport", flag "serverCancelSupport", flag "augmentsSyntaxTokens" ]

def documentCapabilities : Shape :=
  .record
    [ may "synchronization" (flags ["dynamicRegistration", "willSave", "willSaveWaitUntil", "didSave"]),
      may "completion" completionCapabilities,
      may "hover" (.record [flag "dynamicRegistration", formats "contentFormat"]),
      may "signatureHelp" signatureCapabilities, may "references" registration, may "documentHighlight" registration,
      may "documentSymbol"
        (.record
          [ flag "dynamicRegistration", may "symbolKind" kinds, flag "hierarchicalDocumentSymbolSupport", tagSupport ]),
      may "formatting" registration, may "rangeFormatting" registration, may "onTypeFormatting" registration,
      may "declaration" linking, may "definition" linking, may "typeDefinition" linking, may "implementation" linking,
      may "codeAction" actionCapabilities, may "codeLens" registration,
      may "documentLink" (flags ["dynamicRegistration", "tooltipSupport"]), may "colorProvider" registration,
      may "rename"
        (.record
          [ flag "dynamicRegistration", flag "prepareSupport", may "prepareSupportDefaultBehavior" .int32,
            flag "honorsChangeAnnotations" ]),
      may "publishDiagnostics"
        (.record
          [ flag "relatedInformation", tagSupport, flag "versionSupport", flag "codeDescriptionSupport",
            flag "dataSupport" ]),
      may "foldingRange" foldingCapabilities, may "selectionRange" registration, may "linkedEditingRange" registration,
      may "callHierarchy" registration, may "semanticTokens" tokenCapabilities, may "moniker" registration,
      may "typeHierarchy" registration, may "inlineValue" registration,
      may "inlayHint" (.record [flag "dynamicRegistration", resolving]),
      may "diagnostic" (flags ["dynamicRegistration", "relatedDocumentSupport"]) ]

/-! ## The client -/

def windowCapabilities : Shape :=
  .record
    [ flag "workDoneProgress",
      may "showMessage" (.record [may "messageActionItem" (flags ["additionalPropertiesSupport"])]),
      may "showDocument" (.record [need "support" .bool]) ]

def generalCapabilities : Shape :=
  .record
    [ may "regularExpressions" (.record [need "engine" string, may "version" string]),
      may "markdown" (.record [need "parser" string, may "version" string, may "allowedTags" strings]),
      may "staleRequestSupport" (.record [need "cancel" .bool, need "retryOnContentModified" strings]),
      may "positionEncodings" strings ]

def clientCapabilities : Shape :=
  .record
    [ may "workspace" workspaceCapabilities, may "textDocument" documentCapabilities, may "window" windowCapabilities,
      may "general" generalCapabilities, may "experimental" .any ]

end GoAtlas.Server.Shapes
