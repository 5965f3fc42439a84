import RouteTree.Entry.Outline
import RouteTree.Entry.Registration
import RouteTree.Files.Tree
import RouteTree.Main
import RouteTree.View.Basic
import RouteTree.Proofs.Links
import RouteTree.Proofs.Climbing
import RouteTree.Proofs.Resolving
import RouteTree.Proofs.Representation
import RouteTree.Proofs.Declarations
import RouteTree.Proofs.Legible
import RouteTree.Proofs.Acceptance
import RouteTree.Proofs.Expanding
import RouteTree.Proofs.TargetPatterns
import RouteTree.Proofs.Pages
import RouteTree.Proofs.Traces
import RouteTree.Proofs.Framing
import RouteTree.Proofs.Answers
import RouteTree.Proofs.Faults
import RouteTree.Proofs.Refusals
import RouteTree.Proofs.Registering
import RouteTree.Proofs.Binding
import RouteTree.Proofs.Firm
import RouteTree.Proofs.TargetSlashes
import RouteTree.Proofs.Enumeration
import RouteTree.Proofs.Mirroring
import RouteTree.Proofs.Relations
import RouteTree.Proofs.Reordering
import RouteTree.Proofs.SideBySide
import RouteTree.Proofs.TreeOrder
import RouteTree.Proofs.Gating
import RouteTree.Proofs.FormDecoding
import RouteTree.Proofs.Replacing
import RouteTree.Proofs.UrlParts
import RouteTree.Proofs.ParamRecords
import RouteTree.Proofs.Copying
import RouteTree.Proofs.Grammar
import RouteTree.Proofs.Choices
import RouteTree.Proofs.Substitution
import RouteTree.Proofs.BuiltPaths
import RouteTree.Proofs.Recovering
import RouteTree.Proofs.Scopes
import RouteTree.Proofs.Renormalizing
import RouteTree.Proofs.Navigating
import RouteTree.Proofs.RefusedEntries
import RouteTree.Proofs.Loading
import RouteTree.Proofs.FieldOrder
import RouteTree.Proofs.WrittenFiles
import RouteTree.Proofs.Walking
