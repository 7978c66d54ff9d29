import TypedVocabulary.Generation.DotNet
import TypedVocabulary.Generation.Registry
import TypedVocabulary.Generation.Run
import TypedVocabulary.Schema.Document

/-! # Languages at hand

The registry that this program starts with, and generation of a whole document by it.
-/
namespace TypedVocabulary.Registry

def standard : Registry :=
  ⟨[⟨"dotnet", DotNet.backend, ["cs", "csharp"]⟩], [("cs", "dotnet"), ("csharp", "dotnet")]⟩

def generateDocument (r : Registry) (files : FileTree) (document language source : Json) :
    Logged RunReport := do
  let schema ← Document.parse document
  let name ← language.asText
  let generator ← r.create files name source
  generator.run schema

end TypedVocabulary.Registry
