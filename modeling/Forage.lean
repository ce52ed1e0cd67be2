import Forage.Text.Blank
import Forage.Text.Lowercase
import Forage.Text.Utf8
import Forage.Text.Quoted
import Forage.Path
import Forage.FileSystem
import Forage.Regex.Reader
import Forage.Ignore.Rule
import Forage.Ignore.Engine
import Forage.FileTree
import Forage.Classify.Content
import Forage.Classify.Language
import Forage.Classify.MimeType
import Forage.Classify.NameGlob
import Forage.Regex.Validity
import Forage.Classify.Classifier
import Forage.Walk.Walker
import Forage.Toml.Reader
import Forage.Settings.Reader
import Forage.Disk
import Forage.Cli.Run
import Forage.Main
import Forage.Proofs.Path.Below
import Forage.Proofs.Ignore.Uncached
import Forage.Proofs.Walk.Uncancelled
import Forage.Proofs.Walk.Reach
import Forage.Proofs.Walk.Visit
import Forage.Proofs.Walk.Membership
import Forage.Proofs.Regex.Marks
import Forage.Proofs.Ignore.GlobReading
import Forage.Proofs.Ignore.GlobMatching
import Forage.Proofs.Text.ByteOrder
import Forage.Proofs.Walk.Relisting
import Forage.Proofs.Walk.Order
import Forage.Proofs.Ignore.Beneath
import Forage.Proofs.Ignore.PlainGlob
import Forage.Proofs.Walk.Carried
import Forage.Proofs.Walk.Cancelled
import Forage.Proofs.Walk.Accounting
import Forage.Proofs.Walk.History
import Forage.Proofs.Ignore.Interleaving
import Forage.Proofs.Walk.Restriction
import Forage.Proofs.Walk.Unseen
import Forage.Proofs.Regex.Classes
import Forage.Proofs.Ignore.BracketClass
import Forage.Proofs.Ignore.Slashless
import Forage.Proofs.Ignore.Refusal
import Forage.Proofs.Ignore.TwoStars
import Forage.Proofs.Path.Ancestors
import Forage.Proofs.Ignore.Chain
import Forage.Proofs.Regex.Size
import Forage.Proofs.Ignore.ReadyMade
import Forage.Proofs.Walk.Setup
import Forage.Proofs.Ignore.OneFile
import Forage.Proofs.Classify.Replacement
import Forage.Proofs.Classify.LastDefinition
import Forage.Proofs.Classify.Detectors
import Forage.Proofs.Text.LetterCase
import Forage.Proofs.Classify.Policy
import Forage.Proofs.Ignore.Lines
import Forage.Proofs.Walk.Loop
import Forage.Proofs.Walk.Once
import Forage.Proofs.Walk.ByteTotal
import Forage.Proofs.Classify.NameCase
import Forage.Proofs.Cli.Forms
import Forage.Proofs.Cli.Rendering
