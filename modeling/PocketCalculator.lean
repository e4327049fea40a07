import PocketCalculator.Brackets
import PocketCalculator.Main
import PocketCalculator.Phrase
import PocketCalculator.Proofs.Execution
import PocketCalculator.Proofs.Partners
import PocketCalculator.Proofs.Warnings
import PocketCalculator.Proofs.Groups
import PocketCalculator.Proofs.WaitingOrder
import PocketCalculator.Proofs.Conservation
import PocketCalculator.Proofs.Rearrangement
import PocketCalculator.Proofs.Signs
import PocketCalculator.Proofs.Phrases
import PocketCalculator.Proofs.Products
import PocketCalculator.Proofs.Dangling
import PocketCalculator.Proofs.Leniency
import PocketCalculator.Proofs.Neighbours
import PocketCalculator.Proofs.Operands
import PocketCalculator.Proofs.Opposites
import PocketCalculator.Proofs.Remaining
import PocketCalculator.Proofs.Spelling
import PocketCalculator.Proofs.Segments
import PocketCalculator.Proofs.Typing
import PocketCalculator.Proofs.Displays
import PocketCalculator.Proofs.Words
import PocketCalculator.Proofs.Labels
import PocketCalculator.Proofs.LabelTexts
import PocketCalculator.Proofs.Lines
import PocketCalculator.Proofs.Answers
import PocketCalculator.Proofs.Runs
import PocketCalculator.Proofs.Negation
import PocketCalculator.Proofs.Malformed
import PocketCalculator.Proofs.Redisplay
import PocketCalculator.Proofs.Listings
import PocketCalculator.Proofs.ScientificTexts
import PocketCalculator.Proofs.UnknownSymbols
import PocketCalculator.Proofs.Grids
import PocketCalculator.Proofs.FewestDigits
import PocketCalculator.Proofs.ResultTexts
