import TypedList.Main
import TypedList.Failure
import TypedList.Grammar
import TypedList.Json.Reader
import TypedList.Log
import TypedList.Proofs.Agreement
import TypedList.Proofs.Appending
import TypedList.Proofs.Stages
import TypedList.Proofs.Recovery
import TypedList.Proofs.Isolation
import TypedList.Proofs.Concatenation
import TypedList.Proofs.Places
import TypedList.Proofs.Quotes
import TypedList.Proofs.Respelling
import TypedList.Proofs.Justification
import TypedList.Proofs.Cascade
import TypedList.Proofs.Answers
import TypedList.Proofs.Reports
import TypedList.Proofs.Budget
import TypedList.Proofs.Faults
import TypedList.Proofs.ErrorLines
import TypedList.Proofs.Tables
import TypedList.Proofs.Progress
import TypedList.Proofs.CommandLines
