import Karnaugh.Adjacency
import Karnaugh.BitString
import Karnaugh.Block
import Karnaugh.CommandLine.Options
import Karnaugh.CommandLine.Report
import Karnaugh.Cover
import Karnaugh.Equation
import Karnaugh.Fault
import Karnaugh.Grid
import Karnaugh.Label
import Karnaugh.Layout
import Karnaugh.Main
import Karnaugh.Product
import Karnaugh.Proofs.AdjacentCells
import Karnaugh.Proofs.BitDecoding
import Karnaugh.Proofs.CommandEffects
import Karnaugh.Proofs.Coverage
import Karnaugh.Proofs.Durability
import Karnaugh.Proofs.EquationReading
import Karnaugh.Proofs.ExactCover
import Karnaugh.Proofs.FileFormat
import Karnaugh.Proofs.GreedyMatching
import Karnaugh.Proofs.Irredundance
import Karnaugh.Proofs.JoinedEquations
import Karnaugh.Proofs.LeastProduct
import Karnaugh.Proofs.LevelIndex
import Karnaugh.Proofs.MapReading
import Karnaugh.Proofs.Merge
import Karnaugh.Proofs.MintermSets
import Karnaugh.Proofs.Moves
import Karnaugh.Proofs.PassCosts
import Karnaugh.Proofs.ProductGrammar
import Karnaugh.Proofs.Raising
import Karnaugh.Proofs.Reopening
import Karnaugh.Proofs.RunningMaximum
import Karnaugh.Proofs.Sessions
import Karnaugh.Proofs.SolvedLevels
import Karnaugh.Proofs.StableCover
import Karnaugh.Proofs.StableEntries
import Karnaugh.Proofs.SumReading
import Karnaugh.Proofs.TrimmedTexts
import Karnaugh.Proofs.UniqueTexts
import Karnaugh.Proofs.Verdicts
import Karnaugh.Proofs.WordLayout
import Karnaugh.Proofs.WorkbenchHistory
import Karnaugh.Puzzle.Catalog
import Karnaugh.Puzzle.Level
import Karnaugh.Puzzle.Play
import Karnaugh.Records.Entries
import Karnaugh.Records.FileStore
import Karnaugh.Records.Progress
import Karnaugh.Records.Store
import Karnaugh.Solution
import Karnaugh.SumOfProducts
import Karnaugh.Text.Blank
import Karnaugh.Text.CharRanges
import Karnaugh.Text.Decimal
import Karnaugh.Text.GraphemeExtend
import Karnaugh.Text.Invisible
import Karnaugh.Text.Quoted
import Karnaugh.Text.Split
import Karnaugh.Variable
import Karnaugh.Workbench
