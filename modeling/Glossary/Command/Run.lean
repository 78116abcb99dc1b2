import Glossary.Analysis.Data
import Glossary.Command
import Glossary.Command.Error
import Glossary.Html
import Glossary.Log.Report
import Glossary.Preferences
import Glossary.Render

/-!
# Running commands

Each command reads what it needs from the host, does its work, and gives the text that is to be
shown. A command that fails shows nothing; files that it wrote before stay.
-/

namespace Glossary

variable {m : Type → Type} [Monad m] [Host m]

/-- Whether a dictionary file holds JSON; all others hold references. -/
def holdsJson (p : Path) : Bool := p.hasExtension "json"

/-- What is reported of a dictionary file that was loaded. -/
def loadedFile (p : Path) (s : Store) : Event :=
  .info "Loaded user dictionary" [("file", p.text), Report.count "entries" s.size]

namespace DictionaryChoice

/-- Loads the dictionary. -/
def load (d : DictionaryChoice) : ExceptT CommandError m Store := do
  match d.file? with
  | none =>
      Host.tellAll (Report.ofReference d.language.reference)
      ExceptT.mk (pure ((Store.builtin d.language).mapError .dictionary))
  | some p =>
      let content ← Host.attempt (.refused p) (Host.readText p)
      let (events, loaded) :=
        if holdsJson p then (Report.ofJson content, Store.ofJson content)
        else (Report.ofReference content, Store.ofReference content)
      Host.tellAll events
      match loaded with
      | .error e => throw (.dictionary e)
      | .ok s =>
          Host.tell (loadedFile p s)
          pure s

/-- The title of the dictionary's page: that of a reference file which has one, and else the one
of the language. -/
def title (d : DictionaryChoice) : m String := do
  match d.file? with
  | none => pure d.language.referenceTitle
  | some p =>
      if holdsJson p then pure d.language.referenceTitle
      else
        match ← Host.readText p with
        | .error _ => pure d.language.referenceTitle
        | .ok content => pure ((Reference.title? content).getD d.language.referenceTitle)

end DictionaryChoice

namespace Subject

/-- Loads the file and tells its language. -/
def load (s : Subject) : ExceptT CommandError m (SourceFile × Language) := do
  let source ← (SourceFile.load s.file).adapt .source
  match source.resolveLanguage s.language? with
  | .error e => throw (.source e)
  | .ok l => pure (source, l)

/-- The dictionary for the file, once its language is known. -/
def dictionary (s : Subject) (l : Language) : DictionaryChoice := ⟨l, s.dictionary?⟩

end Subject

namespace Command

/-- Explains every token of a file. -/
def runAnalyze (p : Preferences) (s : Subject) (format : OutputFormat) (groups : Bool) :
    ExceptT CommandError m String := do
  let (source, language) ← s.load
  let store ← (s.dictionary language).load
  let outcome := store.analyze source.text
  Host.tellAll (Report.analyze source.text outcome)
  match outcome with
  | .error e => throw (.analysis e)
  | .ok a =>
      pure (match format with
        | .json => (a.toJson s.file language p.groupsIdentifiers).pretty
        | .text =>
            let shown :=
              if groups then Render.tree (a.groups p.groupsIdentifiers)
              else Render.listing a source.map
            shown ++ a.status.display)

/-- Explains the token at a place of a file. A place between tokens is shown in its line. -/
def runHover (p : Preferences) (s : Subject) (line column : Nat) (format : OutputFormat) :
    ExceptT CommandError m String := do
  let (source, language) ← s.load
  match source.map.offset? line column with
  | none => throw (.outside s.file line column)
  | some offset =>
      let store ← (s.dictionary language).load
      let outcome := store.hover? source.text offset
      Host.tellAll (Report.hover offset outcome)
      match outcome with
      | .error e => throw (.analysis e)
      | .ok found =>
          pure (match format, found with
            | .json, found => (Match.noteJson found).pretty
            | .text, some t => Render.note t language p.showsExamples
            | .text, none =>
                let excerpt := (source.map.excerpt? (source.map.span offset (offset + 1))).getD ""
                s!"No token at {line}:{column}\n{excerpt}")

/-- Explains one token. -/
def runLookup (p : Preferences) (token : String) (d : DictionaryChoice) :
    ExceptT CommandError m String := do
  let store ← d.load
  let c := store.classify token
  let shown := s!"{token} ({c.category.name})\n\n{c.description}"
  pure (match (if p.showsExamples then c.example? else none) with
    | some text => s!"{shown}\n\n{text}"
    | none => shown)

/-- Writes generated data into two files of a folder, which is made if it is missing. -/
def writeGenerated (g : Generated) (o : GenerateOptions) : ExceptT GeneratorError m Unit := do
  let definitions := o.folder.join o.definitionsFile
  let dictionary := o.folder.join o.documentFile
  Host.attempt (.refused o.folder) (Host.makeFolders o.folder)
  Host.attempt (.refused definitions) (Host.write definitions (Entry.writeList g.definitions))
  Host.attempt (.refused dictionary) (Host.write dictionary g.document.write)
  Host.tell (.success .generationComplete "Dictionary outputs written"
    [Report.count "entries" g.definitions.length, ("definitions", definitions.text),
      ("dictionary", dictionary.text)])

/-- Turns a reference into data. Its title is the one asked for, or else its own. -/
def runGenerate (o : GenerateOptions) : ExceptT CommandError m String := do
  let content ← Host.attempt (.refused o.source) (Host.readText o.source)
  let title := (o.title? <|> Reference.title? content).getD Generated.untitled
  Host.tellAll (Report.generate content)
  match Generated.ofReference content title with
  | .error e => throw (.generator (.reference e))
  | .ok g =>
      (writeGenerated g o).adapt .generator
      let definitions := (o.folder.join o.definitionsFile).text
      let dictionary := (o.folder.join o.documentFile).text
      pure (s!"Wrote {g.definitions.length} definitions to {definitions}\n" ++
        s!"Wrote \"{title}\" to {dictionary}")

/-- Shows a dictionary as a page, or writes it to a file. -/
def runDocs (d : DictionaryChoice) (output? : Option Path) : ExceptT CommandError m String := do
  let store ← d.load
  let title ← d.title
  let page := Html.page (store.document title) d.language.name
  match output? with
  | none => pure page
  | some p =>
      Host.attempt (.refused p) (Host.write p page)
      pure s!"Wrote {store.size} entries to {p.text}"

end Command

end Glossary
