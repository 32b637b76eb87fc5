import DefLang.CommandLine.Failure
import DefLang.CommandLine.Help
import DefLang.CommandLine.Options
import DefLang.CommandLine.Run
import DefLang.Compile
import DefLang.Fixture.Case
import DefLang.Fixture.Loading
import DefLang.Proofs.CommandLine.Agreement
import DefLang.Proofs.CommandLine.Delivery
import DefLang.Proofs.CommandLine.Listing
import DefLang.Proofs.CommandLine.Production
import DefLang.Proofs.Fixture.Loading
import DefLang.Proofs.Fixture.Normal
import DefLang.Proofs.Grammar.Basic
import DefLang.Proofs.Grammar.Completeness
import DefLang.Proofs.Grammar.Descent
import DefLang.Proofs.Grammar.Locality
import DefLang.Proofs.Grammar.Outcomes
import DefLang.Proofs.Grammar.Soundness
import DefLang.Proofs.Grammar.Stages
import DefLang.Proofs.Lexing.Calls
import DefLang.Proofs.Lexing.Failing
import DefLang.Proofs.Lexing.Joining
import DefLang.Proofs.Lexing.Lexeme
import DefLang.Proofs.Lexing.Matching
import DefLang.Proofs.Lexing.OneLetter
import DefLang.Proofs.Lexing.Places
import DefLang.Proofs.Lexing.Priority
import DefLang.Proofs.Lexing.Scanning
import DefLang.Proofs.Lexing.Segmentation
import DefLang.Proofs.Lexing.Settling
import DefLang.Proofs.Lexing.Shifting
import DefLang.Proofs.Lexing.Slices
import DefLang.Proofs.Scoping.FirstFault
import DefLang.Proofs.Scoping.WellScoped
import DefLang.Proofs.Text.Lines
import DefLang.Proofs.Text.Quoting
import DefLang.Proofs.Text.Utf8
import DefLang.Proofs.Translation.Assembly
import DefLang.Proofs.Translation.Decoding
import DefLang.Proofs.Translation.Diagnostics
import DefLang.Proofs.Translation.Forgetting
import DefLang.Proofs.Translation.Forms
import DefLang.Proofs.Translation.Layout
import DefLang.Proofs.Translation.Misplacement
import DefLang.Proofs.Translation.Numerals
import DefLang.Proofs.Translation.Validity
import DefLang.Proofs.Translation.WellFormed
import DefLang.Proofs.Tree.Printing
import DefLang.Proofs.Tree.Subtrees
import DefLang.Scope
import DefLang.Script
import DefLang.System
import DefLang.Text.Characters
import DefLang.Text.Position
import DefLang.Text.Utf8
import DefLang.Token.Basic
import DefLang.Token.Lexeme
import DefLang.Token.Matching
import DefLang.Token.Scanner
import DefLang.Tree.Basic
import DefLang.Tree.Descent
import DefLang.Tree.Outline
import DefLang.Tree.Reading
