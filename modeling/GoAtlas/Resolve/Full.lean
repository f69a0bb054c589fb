/-
  GoAtlas.Resolve.Full — all symbols of a document.

  A document below a vendored directory has none, without any question to the type checker. References
  are never collected.
-/
import GoAtlas.Module.Manifest
import GoAtlas.Resolve.Definition

namespace GoAtlas

def full (engine : Engine) (packages : PackageResolver) (params : FullParams) :
    Except ResolveError FullResponse × Engine.Use :=
  match params.uri.toFilePath? with
  | none => (.error (.engine ("not a file URI: " ++ params.uri.text)), .none)
  | some file =>
    if file.hasSegment Module.vendorDir then (.ok .empty, .none)
    else
      match engine.viewRoot params.uri with
      | .error reason => (.error (.engine reason), .none)
      | .ok viewRoot =>
        match engine.narrowestPackage params.uri with
        | .error reason => (.error (.engine reason), .check)
        | .ok package =>
          let use := Engine.Use.check.append .check
          match engine.documentSymbols params.uri with
          | .error reason => (.error (.engine reason), use)
          | .ok outline =>
            (.ok ⟨Outline.flatten params.uri (packages.locate (some package) viewRoot file) outline, []⟩, use)

end GoAtlas
