import Stemming.Abbreviation
import Stemming.Stem

/-! The preprocessing pipeline: a fixed sequence of steps on token lists, each of which can be
switched off. -/
namespace Stemming

/-- The steps of the pipeline. -/
inductive Step where
  | expandContractions | expandAbbreviations | lowercase | stripSpecial | removeStopwords | stem
  | stripAccents
  deriving DecidableEq, Repr

/-- The order in which the steps run. -/
def Step.sequence : List Step :=
  [.expandContractions, .expandAbbreviations, .lowercase, .stripSpecial, .removeStopwords, .stem,
    .stripAccents]

/-- Which steps run; all of them unless said otherwise. -/
structure Options where
  expandContractions : Bool := true
  expandAbbreviations : Bool := true
  lowercase : Bool := true
  stripSpecial : Bool := true
  removeStopwords : Bool := true
  stem : Bool := true
  stripAccents : Bool := true
  deriving DecidableEq, Repr

def Options.runs (o : Options) : Step → Bool
  | .expandContractions => o.expandContractions
  | .expandAbbreviations => o.expandAbbreviations
  | .lowercase => o.lowercase
  | .stripSpecial => o.stripSpecial
  | .removeStopwords => o.removeStopwords
  | .stem => o.stem
  | .stripAccents => o.stripAccents

/-- One step. Stripping special characters also drops the tokens it leaves empty. -/
def Step.run (a : Abbreviations) (ts : List Token) : Step → List Token
  | .expandContractions => Token.expandContractions ts
  | .expandAbbreviations => a.expand ts
  | .lowercase => ts.map Text.lowercase
  | .stripSpecial => (ts.map Token.stripSpecial).filter (!·.isEmpty)
  | .removeStopwords => Token.removeStopwords ts
  | .stem => stemBatch ts
  | .stripAccents => ts.map Token.stripAccents

structure Pipeline where
  options : Options := {}
  abbreviations : Abbreviations := .builtIn

namespace Pipeline

/-- One step, or nothing when it is switched off. -/
def advance (p : Pipeline) (ts : List Token) (s : Step) : List Token :=
  if p.options.runs s then s.run p.abbreviations ts else ts

def processTokens (p : Pipeline) (ts : List Token) : List Token :=
  Step.sequence.foldl p.advance ts

def process (p : Pipeline) (text : List Char) : List Token := p.processTokens (tokenize text)

end Pipeline

end Stemming
