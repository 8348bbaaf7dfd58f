import DataDictionary.Listing.Scan
import DataDictionary.Snapshot.Agreement
import DataDictionary.Snapshot.Files
import DataDictionary.Validation.Evaluation
import DataDictionary.Proofs.Sheet
import DataDictionary.Proofs.Assembly
import DataDictionary.Proofs.Separation
import DataDictionary.Proofs.Layout
import DataDictionary.Proofs.Congruence
import DataDictionary.Proofs.Arrangement
import DataDictionary.Proofs.Listing
import DataDictionary.Proofs.LookUp
import DataDictionary.Proofs.Json.Number
import DataDictionary.Proofs.Json.Document
import DataDictionary.Proofs.Json.Structure
import DataDictionary.Proofs.Validation.Codec
import DataDictionary.Proofs.Model.Codec
import DataDictionary.Proofs.Finiteness
import DataDictionary.Proofs.Snapshot
import DataDictionary.Proofs.Enumeration
import DataDictionary.Proofs.Coherence
import DataDictionary.Proofs.Text.Blank
import DataDictionary.Proofs.Text.Utf8
import DataDictionary.Proofs.Text.LetterCase
import DataDictionary.Proofs.CellReference
import DataDictionary.Proofs.NumberFormat
import DataDictionary.Proofs.Markup.Written
import DataDictionary.Proofs.Markup.Attributes
import DataDictionary.Proofs.Markup.Pieces
import DataDictionary.Proofs.Workbook.Page
import DataDictionary.Proofs.Workbook.OpenXml
import DataDictionary.Proofs.Workbook.OpenDocument
import DataDictionary.Proofs.Workbook.Agreement
import DataDictionary.Proofs.Workbook.Repetition
import DataDictionary.Proofs.Workbook.Steps
import DataDictionary.Proofs.Workbook.CutOff
import DataDictionary.Proofs.Workbook.Counters
import DataDictionary.Proofs.Integrity
import DataDictionary.Proofs.Clearing
import DataDictionary.Proofs.Workbook.ChosenSheets
import DataDictionary.Proofs.Workbook.ChosenTables
import DataDictionary.Proofs.Text.Split
import DataDictionary.Proofs.Validation.Chain
import DataDictionary.Proofs.Validation.Directive
import DataDictionary.Proofs.Validation.Evaluation
import DataDictionary.Proofs.Default
import DataDictionary.Proofs.Records
import DataDictionary.Proofs.Naming
import DataDictionary.Proofs.Workbook.Prefixes
import DataDictionary.Proofs.Workbook.ReadableCells
import DataDictionary.Proofs.Workbook.Positions
import DataDictionary.Proofs.Workbook.StoredTexts
import DataDictionary.Proofs.Text.Ascii
import DataDictionary.Proofs.Markup.CharacterData
import DataDictionary.Proofs.Workbook.Paragraphs
import DataDictionary.Proofs.Workbook.Indentation
import DataDictionary.Proofs.Workbook.CharacterData
import DataDictionary.Proofs.Workbook.EmptyCells
import DataDictionary.Proofs.Validation.Zod
import DataDictionary.Proofs.Literals
import DataDictionary.Proofs.Workbook.CellStyles
import DataDictionary.Proofs.Calendar.Date
import DataDictionary.Proofs.Binary64.Whole
import DataDictionary.Proofs.Calendar.Serial
import DataDictionary.Proofs.Workbook.References
import DataDictionary.Proofs.Archive
import DataDictionary.Proofs.Workbook.Format
import DataDictionary.Proofs.Validation.DateShape
import DataDictionary.Proofs.Duration
import DataDictionary.Proofs.Workbook.Rectangle
